import Straightedge.Proofs.Grammar.Lookahead
import Straightedge.Proofs.Token.Spelling

namespace Straightedge

open Text

theorem prepend_ok (before tokens : List Token) (result : Except SyntaxError (List Token) × Nat)
    (found : (prepend before result).1 = .ok tokens) : ∃ rest, result.1 = .ok rest ∧ before ++ rest = tokens := by
  obtain ⟨outcome, stop⟩ := result
  cases outcome with
  | error error => cases found
  | ok rest =>
      cases found
      exact ⟨rest, rfl, rfl⟩

theorem lexeme_of_front (source : List Char) (gap : Nat) (lexeme : Lexeme)
    (found : front source = .lexeme gap lexeme) : ∃ rest, Lexeme.front? rest = some lexeme := by
  rw [front] at found
  split at found
  · cases found
  · split at found
    · rename_i read
      cases found
      exact ⟨_, read⟩
    · cases found

-- What holds of every lexeme as a token holds of every token of a source.
theorem scan_tokens (P : Token → Prop)
    (each : ∀ source lexeme offset, Lexeme.front? source = some lexeme → P (lexeme.token offset))
    (offset : Nat) (source : List Char) (tokens : List Token) (found : (scan offset source).1 = .ok tokens) :
    ∀ token ∈ tokens, P token := by
  cases read : front source with
  | finish gap =>
      rw [scan_finish offset gap source read] at found
      cases found
      exact fun _ none => (List.not_mem_nil none).elim
  | invalid gap c =>
      rw [scan_invalid offset gap source c read] at found
      cases found
  | lexeme gap lexeme =>
      rw [scan_lexeme offset gap source lexeme read] at found
      obtain ⟨rest, restFound, rfl⟩ := prepend_ok _ _ _ found
      obtain ⟨text, lexemeRead⟩ := lexeme_of_front source gap lexeme read
      exact List.forall_mem_cons.mpr ⟨each text lexeme _ lexemeRead, scan_tokens P each _ _ rest restFound⟩
termination_by source.length
decreasing_by exact front_shrinks source gap lexeme read

-- Keywords are words in capitals; neither they nor the opening bracket begin like a number.

theorem spelling_reserved (word : Keyword) : Lexeme.reserved? word.spelling.toList = some .keyword := by
  cases word <;> decide

theorem capitals_reserved (text : List Char) (word : String) (same : String.ofList (capitals text) = word) :
    Lexeme.reserved? text = Vocabulary.reserved? word := by
  rw [Lexeme.reserved?, same]

theorem to_list_of_value (text : List Char) (word : String) (same : String.ofList text = word) :
    text = word.toList := by
  rw [← same, String.toList_ofList]

theorem word_token_orderly (text : List Char) (starts : ∀ c ∈ text.head?, isWordStart c = true) (offset : Nat) :
    ((Lexeme.word text).token offset).Orderly := by
  cases reserved : Lexeme.reserved? text with
  | none =>
      have value : ((Lexeme.word text).token offset).value = String.ofList text := by
        simp [Lexeme.token, Lexeme.value, reserved]
      constructor
      · intro word same
        rw [to_list_of_value text _ (value.symm.trans same), spelling_reserved] at reserved
        cases reserved
      · intro same
        rw [to_list_of_value text _ (value.symm.trans same)] at starts
        exact absurd (starts '(' rfl) (by decide)
  | some category =>
      have value : ((Lexeme.word text).token offset).value = String.ofList (capitals text) := by
        simp [Lexeme.token, Lexeme.value, reserved]
      constructor
      · intro word same
        have found := capitals_reserved text _ (value.symm.trans same)
        have known : Vocabulary.reserved? word.spelling = some .keyword := by cases word <;> decide
        simp [Lexeme.token, Lexeme.category, found, known]
      · intro same
        have free : Vocabulary.reserved? Vocabulary.opening = none := by decide
        rw [capitals_reserved text _ (value.symm.trans same), free] at reserved
        cases reserved

theorem number_head (source : List Char) (starts : Lexeme.startsNumber source = true) :
    (Lexeme.numberIn source).text.head? = source.head? := by
  match source with
  | [] => simp [Lexeme.startsNumber] at starts
  | c :: rest =>
      by_cases minus : c = '-'
      · subst minus
        simp [Lexeme.numberIn, Lexeme.text, Lexeme.sign]
      · have digit : c.isDigit = true := by simpa [Lexeme.startsNumber, minus] using starts
        simp [Lexeme.numberIn, Lexeme.text, Lexeme.sign, minus, digit]

theorem number_token_orderly (source : List Char) (starts : Lexeme.startsNumber source = true) (offset : Nat) :
    ((Lexeme.numberIn source).token offset).Orderly := by
  have front : ∀ word : String, ((Lexeme.numberIn source).token offset).value = word →
      source.head? = word.toList.head? := by
    intro word same
    rw [← number_head source starts]
    exact congrArg List.head? (to_list_of_value (Lexeme.numberIn source).text word same)
  have other : ∀ c, source.head? = some c → c = '-' ∨ c.isDigit = true := by
    intro c head
    cases source with
    | nil => cases head
    | cons d rest =>
        cases head
        by_cases minus : c = '-'
        · exact .inl minus
        · exact .inr (by simpa [Lexeme.startsNumber, minus] using starts)
  constructor
  · intro word same
    cases word <;> exact absurd (other _ (front _ same)) (by decide)
  · intro same
    exact absurd (other _ (front _ same)) (by decide)

theorem separator_token_orderly (c : Char) (offset : Nat) : ((Lexeme.separator c).token offset).Orderly := by
  constructor
  · intro word same
    have short := congrArg List.length (to_list_of_value [c] _ same)
    cases word <;> exact absurd short (by simp; decide)
  · intro _
    rfl

theorem lexeme_token_orderly (source : List Char) (lexeme : Lexeme) (offset : Nat)
    (read : Lexeme.front? source = some lexeme) : (lexeme.token offset).Orderly := by
  cases source with
  | nil => cases read
  | cons c rest =>
      rw [Lexeme.front?] at read
      split at read
      · rename_i starts
        cases read
        refine word_token_orderly _ (fun d head => ?_) offset
        rw [List.takeWhile_cons_of_pos (word_part_of_word_start c starts)] at head
        cases head
        exact starts
      · split at read
        · rename_i starts
          cases read
          exact number_token_orderly _ starts offset
        · split at read
          · cases read
            exact separator_token_orderly c offset
          · cases read

theorem tokenize_disciplined (source : String) (tokens : List Token) (found : tokenize source = .ok tokens) :
    Disciplined tokens :=
  scan_tokens Token.Orderly (fun source lexeme offset => lexeme_token_orderly source lexeme offset) 0 _ tokens found

end Straightedge
