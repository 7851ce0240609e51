import Mathlib.Data.List.Chain
import Straightedge.Proofs.Parse.Violation
import Straightedge.Proofs.Token.Respaced

namespace Straightedge

open Text

-- Both are written `ST` in capitals.
def IsLigature (c : Char) : Prop := c = 'ﬅ' ∨ c = 'ﬆ'

instance (c : Char) : Decidable (IsLigature c) := inferInstanceAs (Decidable (_ ∨ _))

-- The word that is shown has two letters for a ligature.
def Ligated (shown : String) (text : List Char) : Prop := shown = "CONSTRUCT" ∧ ∃ c ∈ text, IsLigature c

instance (shown : String) (text : List Char) : Decidable (Ligated shown text) := inferInstanceAs (Decidable (_ ∧ _))

-- A text of a source, and what is shown for it.
structure Shows (shown : String) (text : List Char) : Prop where
  letters : capitals shown.toList = capitals text
  size : shown.length = text.length + if Ligated shown text then 1 else 0

structure Delimits (source : List Char) (offset : Int) (length : Nat) (text : List Char) : Prop where
  start : 0 ≤ offset
  inside : offset + length ≤ source.length
  slice : (source.drop offset.toNat).take length = text

structure Marks (source : List Char) (offset : Int) (shown : String) (text : List Char) : Prop where
  place : Delimits source offset text.length text
  shows : Shows shown text
  delimited : Delimits source offset shown.length text ↔ ¬Ligated shown text

structure Token.Covers (source : List Char) (token : Token) (text : List Char) : Prop where
  marks : Marks source token.offset token.value text
  lexeme : Stands text (source.drop (token.offset.toNat + text.length)) token.category token.value

structure Follows (first second : Token × List Char) : Prop where
  behind : first.1.offset + first.2.length ≤ second.1.offset
  shown : ¬Ligated first.1.value first.2 → first.1.offset + first.1.value.length ≤ second.1.offset

theorem plain_size (shown : String) (text : List Char) (shows : Shows shown text) (plain : ¬Ligated shown text) :
    shown.length = text.length := by
  rw [shows.size, if_neg plain, Nat.add_zero]

theorem marks_of_place (source : List Char) (offset : Int) (shown : String) (text : List Char)
    (place : Delimits source offset text.length text) (shows : Shows shown text) : Marks source offset shown text := by
  refine ⟨place, shows, fun whole ligated => ?_, fun plain => ?_⟩
  · -- What is cut out of the source with a ligature has a character too many.
    obtain ⟨start, inside, slice⟩ := whole
    have cut := congrArg List.length slice
    rw [List.length_take, List.length_drop, shows.size, if_pos ligated] at cut
    rw [shows.size, if_pos ligated] at inside
    omega
  · rw [plain_size shown text shows plain]
    exact place

theorem marks_between (before text rest : List Char) (shown : String) (shows : Shows shown text) :
    Marks (before ++ (text ++ rest)) before.length shown text := by
  refine marks_of_place _ _ shown text ⟨Int.natCast_nonneg _, ?_, ?_⟩ shows
  · simp only [List.length_append]
    omega
  · rw [Int.toNat_natCast, List.drop_left, List.take_left]

def doubles : List (List Char) := [['S', 'S'], ['F', 'F'], ['F', 'I'], ['F', 'L'], ['F', 'F', 'I'], ['F', 'F', 'L']]

theorem capital_cases (c : Char) : capital c ∈ doubles ∨ (IsLigature c ∧ capital c = ['S', 'T']) ∨
    ¬IsLigature c ∧ (capital c).length = 1 := by
  by_cases ligature : IsLigature c
  · refine .inr (.inl ⟨ligature, ?_⟩)
    rcases ligature with rfl | rfl <;> rfl
  · rw [capital.eq_def]
    split
    all_goals first
      | exact .inl (by decide)
      | exact .inr (.inr ⟨ligature, rfl⟩)
      | exact absurd (by decide) ligature

theorem capital_inside (c : Char) (text : List Char) (inside : c ∈ text) : capital c <:+: capitals text := by
  rw [capitals, List.flatMap_def]
  exact List.infix_of_mem_flatten (List.mem_map_of_mem inside)

theorem capitals_length (text : List Char)
    (sizes : ∀ c ∈ text, (capital c).length = if IsLigature c then 2 else 1) :
    (capitals text).length = text.length + text.countP (IsLigature ·) := by
  induction text with
  | nil => rfl
  | cons c rest ih =>
      obtain ⟨first, others⟩ := List.forall_mem_cons.mp sizes
      rw [capitals, List.flatMap_cons, List.length_append, first, List.countP_cons, List.length_cons]
      have tail := ih others
      rw [capitals] at tail
      rw [tail]
      by_cases ligature : IsLigature c <;> simp [ligature] <;> omega

theorem ligatures_counted (text : List Char) : text.countP (IsLigature ·) ≤ (capitals text).count 'S' := by
  induction text with
  | nil => exact Nat.le_refl 0
  | cons c rest ih =>
      rw [capitals] at ih
      rw [capitals, List.flatMap_cons, List.count_append, List.countP_cons]
      by_cases ligature : IsLigature c
      · have one : (capital c).count 'S' = 1 := by rcases ligature with rfl | rfl <;> decide
        simp only [ligature, decide_true, if_true]
        omega
      · simp only [ligature, decide_false, Bool.false_eq_true, if_false]
        omega

-- Of the letters that a ligature or a double letter is made of, a reserved word has next to none.
theorem reserved_letters (word : String) (category : Category) (known : Vocabulary.reserved? word = some category) :
    (∀ double ∈ doubles, ¬double <:+: word.toList) ∧ (['S', 'T'] <:+: word.toList → word = "CONSTRUCT") ∧
      word.toList.count 'S' ≤ 1 :=
  reserved_cases (fun word => (∀ double ∈ doubles, ¬double <:+: word.toList) ∧
    (['S', 'T'] <:+: word.toList → word = "CONSTRUCT") ∧ word.toList.count 'S' ≤ 1) (by decide +kernel) word category known

theorem verbatim_shows (text : List Char) : Shows (String.ofList text) text := by
  refine ⟨by rw [String.toList_ofList], ?_⟩
  have plain : ¬Ligated (String.ofList text) text := by
    rintro ⟨word, c, inside, ligature⟩
    have letters : "CONSTRUCT".toList.all (fun c => ¬IsLigature c) = true := by decide
    rw [to_list_of_value text _ word] at inside
    exact of_decide_eq_true (List.all_eq_true.mp letters c inside) ligature
  rw [String.length_ofList, if_neg plain, Nat.add_zero]

theorem reserved_shows (text : List Char) (category : Category)
    (known : Vocabulary.reserved? (String.ofList (capitals text)) = some category) :
    Shows (String.ofList (capitals text)) text := by
  obtain ⟨noDouble, ligated, single⟩ := reserved_letters _ category known
  have same := (reserved_in_capitals _ category known).2
  rw [String.toList_ofList] at noDouble ligated single same
  have cases (c : Char) (inside : c ∈ text) := (capital_cases c).resolve_left fun double =>
    noDouble _ double (capital_inside c text inside)
  have length := capitals_length text fun c inside => by
    rcases cases c inside with ⟨ligature, capital⟩ | ⟨plain, one⟩
    · rw [capital, if_pos ligature]
      rfl
    · rw [one, if_neg plain]
  have most := ligatures_counted text
  refine ⟨by rw [String.toList_ofList, same], ?_⟩
  rw [String.length_ofList, length]
  by_cases found : ∃ c ∈ text, IsLigature c
  · obtain ⟨c, inside, ligature⟩ := id found
    have some : 0 < text.countP (IsLigature ·) := List.countP_pos_iff.mpr ⟨c, inside, decide_eq_true ligature⟩
    have capital : capital c = ['S', 'T'] := by rcases ligature with rfl | rfl <;> rfl
    have word := ligated (capital ▸ capital_inside c text inside)
    rw [if_pos ⟨word, found⟩]
    omega
  · have none : text.countP (IsLigature ·) = 0 :=
      List.countP_eq_zero.mpr fun c inside ligature => found ⟨c, inside, of_decide_eq_true ligature⟩
    rw [none, if_neg fun both => found both.2]

theorem stands_shows (text rest : List Char) (category : Category) (value : String)
    (stands : Stands text rest category value) : Shows value text := by
  cases stands with
  | reserved _ _ _ _ _ known => exact reserved_shows text category known
  | name => exact verbatim_shows text
  | integer => exact verbatim_shows text
  | fractional => exact verbatim_shows text
  | separator c => exact verbatim_shows [c]

theorem splits_cover (offset : Nat) (text rest : List Char) (tokens : List Token) (splits : Splits offset text rest tokens)
    (before : List Char) (placed : before.length = offset) : ∃ texts,
      List.Forall₂ (Token.Covers (before ++ (text ++ rest))) tokens texts ∧
      (tokens.zip texts).IsChain Follows ∧
      ∀ token ∈ tokens, offset ≤ token.offset := by
  induction splits generalizing before with
  | finish => exact ⟨[], .nil, .nil, fun _ none => (List.not_mem_nil none).elim⟩
  | lexeme offset gap text later rest category value tokens _ stands _ ih =>
      subst placed
      obtain ⟨texts, covers, chain, behind⟩ := ih (before ++ (gap ++ text)) (by simp)
      have start : ((before ++ gap).length : Int) = ((before.length + gap.length : Nat) : Int) := by simp
      have whole : before ++ (gap ++ (text ++ later) ++ rest) = (before ++ gap) ++ (text ++ (later ++ rest)) := by simp
      have first : Token.Covers ((before ++ gap) ++ (text ++ (later ++ rest)))
          ⟨category, value, ((before ++ gap).length : Int)⟩ text := by
        refine ⟨marks_between _ text _ value (stands_shows _ _ _ _ stands), ?_⟩
        have left : ((before ++ gap) ++ (text ++ (later ++ rest))).drop ((before ++ gap).length + text.length) =
            later ++ rest := by rw [List.drop_length_add_append, List.drop_left]
        rw [Int.toNat_natCast, left]
        exact stands
      have again : before ++ (gap ++ text) ++ (later ++ rest) = (before ++ gap) ++ (text ++ (later ++ rest)) := by simp
      rw [again] at covers
      rw [start] at first
      rw [whole]
      refine ⟨text :: texts, .cons first covers, ?_, ?_⟩
      · refine List.isChain_cons.mpr ⟨fun pair head => ?_, chain⟩
        have next := behind pair.1 (List.of_mem_zip (List.mem_of_mem_head? head)).1
        have behind : ((before.length + gap.length : Nat) : Int) + text.length ≤ pair.1.offset := by
          push_cast at next ⊢
          omega
        exact ⟨behind, fun plain => by rwa [plain_size value text (stands_shows _ _ _ _ stands) plain]⟩
      · refine List.forall_mem_cons.mpr ⟨by push_cast; omega, fun token inside => ?_⟩
        have next := behind token inside
        push_cast at next
        omega

theorem covered_token (source : List Char) (tokens : List Token) (texts : List (List Char))
    (covers : List.Forall₂ (Token.Covers source) tokens texts) (token : Token) (inside : token ∈ tokens) :
    ∃ text, token.Covers source text := by
  induction covers with
  | nil => cases inside
  | cons first _ ih =>
      rcases List.mem_cons.mp inside with rfl | later
      · exact ⟨_, first⟩
      · exact ih later

theorem tokens_covered (source : String) (tokens : List Token) (split : tokenize source = .ok tokens) : ∃ texts,
    List.Forall₂ (Token.Covers source.toList) tokens texts ∧
      (tokens.zip texts).IsChain Follows := by
  obtain ⟨texts, covers, chain, _⟩ := splits_cover 0 _ [] tokens (split_found source tokens split) [] rfl
  rw [List.nil_append, List.append_nil] at covers
  exact ⟨texts, covers, chain⟩

theorem unsplit_marked (source : String) (error : SyntaxError) (unsplit : tokenize source = .error error) :
    ∃ text, Marks source.toList error.offset error.actual text := by
  obtain ⟨before, c, after, _, whole, _, _, rfl⟩ := stuck_found source error unsplit
  rw [whole]
  exact ⟨[c], marks_between before [c] after _ (verbatim_shows [c])⟩

theorem stopped_marked (jitter : Jitter) (source : List Char) (tokens : List Token) (texts : List (List Char))
    (covers : List.Forall₂ (Token.Covers source) tokens texts) (error : SyntaxError)
    (failed : (Reading.ofTokens jitter tokens).result = .error (.violation error)) :
    ∃ text, Marks source error.offset error.actual text := by
  cases read : Reading.ofTokens jitter tokens with
  | stopped fault session =>
      rw [read] at failed
      cases failed
      obtain ⟨token, inside, shown⟩ := stopped_shows jitter tokens error session read
      obtain ⟨text, covered⟩ := covered_token source tokens texts covers token inside
      rw [shown]
      exact ⟨text, covered.marks⟩
  | empty _ =>
      -- Nothing is shown for a source without tokens.
      cases tokens with
      | nil =>
          cases failed
          exact ⟨[], marks_between [] [] source "" (verbatim_shows [])⟩
      | cons token rest =>
          rw [of_tokens_drawing jitter _ (List.cons_ne_nil token rest)] at read
          split at read <;> cases read
  | unsplit _ =>
      cases tokens with
      | nil => cases read
      | cons token rest =>
          rw [of_tokens_drawing jitter _ (List.cons_ne_nil token rest)] at read
          split at read <;> cases read
  | finished _ _ =>
      rw [read] at failed
      cases failed

/-- Each token has its lexeme at its offset, and the lexemes follow one another; what an error shows stands at its
offset, too. The length of what is shown is the length of the lexeme, unless it is a `CONSTRUCT` with a ligature. -/
theorem offsets_mark_out_lexemes (source : String) :
    (∀ tokens, tokenize source = .ok tokens → ∃ texts, List.Forall₂ (Token.Covers source.toList) tokens texts ∧
      (tokens.zip texts).IsChain Follows) ∧
    ∀ jitter error, (Reading.ofSource jitter source).result = .error (.violation error) →
      ∃ text, Marks source.toList error.offset error.actual text := by
  refine ⟨tokens_covered source, fun jitter error failed => ?_⟩
  rw [Reading.ofSource] at failed
  cases split : tokenize source with
  | error unsplit =>
      rw [split] at failed
      cases failed
      exact unsplit_marked source _ split
  | ok tokens =>
      rw [split] at failed
      obtain ⟨texts, covers, _⟩ := tokens_covered source tokens split
      exact stopped_marked jitter source.toList tokens texts covers error failed

theorem plain_word_marked_out :
    tokenize "construct." = .ok [⟨.operator, "CONSTRUCT", 0⟩, ⟨.separator, ".", 9⟩] ∧
      ∃ texts, List.Forall₂ (Token.Covers "construct.".toList)
        [⟨.operator, "CONSTRUCT", 0⟩, ⟨.separator, ".", 9⟩] texts ∧
        (List.zip [⟨.operator, "CONSTRUCT", 0⟩, ⟨.separator, ".", 9⟩] texts).IsChain Follows :=
  have split : tokenize "construct." = .ok [⟨.operator, "CONSTRUCT", 0⟩, ⟨.separator, ".", 9⟩] := by decide +kernel
  ⟨split, (offsets_mark_out_lexemes "construct.").1 _ split⟩

theorem ligature_overruns : tokenize "conﬆruct" = .ok [⟨.operator, "CONSTRUCT", 0⟩] ∧
    ¬∀ token ∈ [(⟨.operator, "CONSTRUCT", 0⟩ : Token)],
      token.offset + token.value.length ≤ "conﬆruct".length := by
  decide +kernel

end Straightedge
