import Straightedge.Proofs.Token.Split

namespace Straightedge

open Text

def spaced (tokens : List Token) : String := " ".intercalate (tokens.map Token.value)

-- Where the tokens stand if each is followed by one more character.
def respace (offset : Nat) : List Token → List Token
  | [] => []
  | token :: rest =>
      { token with offset := offset } :: respace (offset + (token.value.toList.length + 1)) rest

theorem respace_spelled (offset : Nat) (tokens : List Token) :
    (respace offset tokens).map (fun token => (token.category, token.value)) =
      tokens.map fun token => (token.category, token.value) := by
  induction tokens generalizing offset with
  | nil => rfl
  | cons token rest ih => simp [respace, ih]

-- A value stands for its token again wherever a blank or nothing is behind it.

def Token.Lasting (token : Token) : Prop :=
  ∀ rest : List Char, (∀ c ∈ rest.head?, c = ' ') → Stands token.value.toList rest token.category token.value

theorem reserved_cases (P : String → Prop) (each : ∀ word ∈ Keyword.all.map Keyword.spelling ++ Vocabulary.operators, P word)
    (word : String) (category : Category) (known : Vocabulary.reserved? word = some category) : P word := by
  refine each word (List.mem_append.mpr ?_)
  rw [Vocabulary.reserved?] at known
  split at known
  · rename_i found
    obtain ⟨keyword, spelled⟩ := Option.isSome_iff_exists.mp found
    refine .inl (List.mem_map.mpr ⟨keyword, keyword.mem_all, ?_⟩)
    exact Keyword.spelling_of_of_spelling word keyword spelled
  · split at known
    · rename_i member
      exact .inr member
    · cases known

theorem reserved_in_capitals (word : String) (category : Category) (known : Vocabulary.reserved? word = some category) :
    Lexeme.IsWord word.toList ∧ capitals word.toList = word.toList :=
  reserved_cases (fun word => Lexeme.IsWord word.toList ∧ capitals word.toList = word.toList) (by decide) word category known

theorem stands_lasting (text rest : List Char) (category : Category) (value : String) (offset : Int)
    (stands : Stands text rest category value) : (Token.mk category value offset).Lasting := by
  intro later blank
  have ends : ∀ c ∈ later.head?, isWordPart c = false ∧ c.isDigit = false := by
    intro c head
    rw [blank c head]
    decide
  have noFraction : ∀ c tail, later = '.' :: c :: tail → c.isDigit = false := by
    rintro c tail rfl
    exact absurd (blank '.' rfl) (by decide)
  -- A reserved word comes back in capitals, which are reserved for the same category.
  cases stands with
  | reserved _ _ _ isWord _ known =>
      obtain ⟨plain, same⟩ := reserved_in_capitals _ category known
      rw [String.toList_ofList] at same plain
      have again := Stands.reserved (capitals text) later category plain (fun c head => (ends c head).1) (by rwa [same])
      rw [same] at again
      rwa [String.toList_ofList]
  | name _ _ isWord _ free =>
      dsimp only
      rw [String.toList_ofList]
      exact .name text later isWord (fun c head => (ends c head).1) free
  | integer _ _ form _ _ =>
      dsimp only
      rw [String.toList_ofList]
      exact .integer text later form (fun c head => (ends c head).2) noFraction
  | fractional _ _ form _ =>
      dsimp only
      rw [String.toList_ofList]
      exact .fractional text later form fun c head => (ends c head).2
  | separator c _ mark =>
      dsimp only
      rw [String.toList_singleton]
      exact .separator c later mark

theorem tokenize_lasting (source : String) (tokens : List Token) (found : tokenize source = .ok tokens) :
    ∀ token ∈ tokens, token.Lasting := by
  refine scan_tokens Token.Lasting (fun source lexeme offset read => ?_) 0 _ tokens found
  obtain ⟨later, _, stands⟩ := front_stands source lexeme read
  exact stands_lasting _ later _ _ _ stands

def spread (tokens : List Token) : List Char := tokens.flatMap fun token => ' ' :: token.value.toList

theorem spaced_spread (first : Token) (rest : List Token) :
    (spaced (first :: rest)).toList = first.value.toList ++ spread rest := by
  rw [spaced, List.map_cons, separated_characters, List.flatMap_map]
  rfl

theorem spread_blank (tokens : List Token) : ∀ c ∈ (spread tokens).head?, c = ' ' := by
  cases tokens with
  | nil => exact fun _ none => by cases none
  | cons token rest =>
      rintro c ⟨⟩
      rfl

theorem spread_splits (tokens : List Token) (lasting : ∀ token ∈ tokens, token.Lasting) (offset : Nat) :
    Splits offset (spread tokens) [] (respace (offset + 1) tokens) := by
  induction tokens generalizing offset with
  | nil => exact .finish offset [] [] (.empty [])
  | cons token rest ih =>
      obtain ⟨first, others⟩ := List.forall_mem_cons.mp lasting
      have tail := ih others (offset + (1 + token.value.toList.length))
      have stands := first (spread rest ++ []) (by rw [List.append_nil]; exact spread_blank rest)
      have split := Splits.lexeme offset [' '] token.value.toList (spread rest) [] token.category token.value _
        (.blank ' ' [] _ rfl (.empty _)) stands tail
      have next : offset + (1 + token.value.toList.length) + 1 = offset + 1 + (token.value.toList.length + 1) := by omega
      rw [next] at split
      exact split

theorem spaced_tokens (source : String) (tokens : List Token) (found : tokenize source = .ok tokens) :
    tokenize (spaced tokens) = .ok (respace 0 tokens) := by
  have lasting := tokenize_lasting source tokens found
  have split : Splits 0 (spaced tokens).toList [] (respace 0 tokens) := by
    cases tokens with
    | nil => exact .finish 0 [] [] (.empty [])
    | cons token rest =>
        obtain ⟨first, others⟩ := List.forall_mem_cons.mp lasting
        have stands := first (spread rest ++ []) (by rw [List.append_nil]; exact spread_blank rest)
        have tail := spread_splits rest others (0 + (0 + token.value.toList.length))
        have split := Splits.lexeme 0 [] token.value.toList (spread rest) [] token.category token.value _ (.empty _) stands tail
        have next : 0 + (0 + token.value.toList.length) + 1 = 0 + (token.value.toList.length + 1) := by omega
        rw [next, List.nil_append, ← spaced_spread] at split
        exact split
  have scanned := splits_scan 0 _ [] _ split
  rw [List.append_nil, scan_finish _ 0 [] rfl] at scanned
  rw [tokenize, scanned]
  exact congrArg Except.ok (List.append_nil _)

end Straightedge
