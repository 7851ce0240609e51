import Straightedge.Proofs.Token.Discipline

namespace Straightedge

open Text

def IsName (name : String) : Prop := Lexeme.IsWord name.toList ∧ Lexeme.reserved? name.toList = none

instance (name : String) : Decidable (IsName name) := inferInstanceAs (Decidable (_ ∧ _))

theorem name_token (name : String) (free : Lexeme.reserved? name.toList = none) (offset : Nat) :
    (Lexeme.word name.toList).token offset = ⟨.identifier, name, offset⟩ := by
  simp [Lexeme.token, Lexeme.category, Lexeme.value, free]

theorem word_of_front (source word : List Char) (read : Lexeme.front? source = some (.word word)) :
    Lexeme.IsWord word := by
  cases source with
  | nil => cases read
  | cons c rest =>
      rw [Lexeme.front?] at read
      split at read
      · rename_i starts
        cases read
        have front : (c :: rest).takeWhile isWordPart = c :: rest.takeWhile isWordPart :=
          List.takeWhile_cons_of_pos (word_part_of_word_start c starts)
        refine ⟨?_, ?_, fun d inside => List.mem_takeWhile_imp inside⟩
        · rw [front]
          rintro d ⟨⟩
          exact starts
        · rw [front]
          exact List.cons_ne_nil _ _
      · split at read
        · cases read
        · split at read <;> cases read

theorem word_identifier_free (word : List Char) (category : (Lexeme.word word).category = .identifier) :
    Lexeme.reserved? word = none := by
  cases reserved : Lexeme.reserved? word with
  | none => rfl
  | some known =>
      rw [Lexeme.category, reserved, Option.getD_some] at category
      rw [category, Lexeme.reserved?, Vocabulary.reserved?] at reserved
      split at reserved
      · cases reserved
      · split at reserved <;> cases reserved

theorem name_iff (name : String) : IsName name ↔ tokenize name = .ok [⟨.identifier, name, 0⟩] := by
  constructor
  · rintro ⟨isWord, free⟩
    have read := Lexeme.front_word name.toList [] isWord fun c none => by cases none
    rw [List.append_nil] at read
    have whole : name.toList.drop (0 + (Lexeme.word name.toList).text.length) = [] := by
      rw [Nat.zero_add]
      exact List.drop_length
    rw [tokenize, scan_lexeme 0 0 _ _ (front_of_lexeme _ _ read), whole, scan_finish _ 0 [] rfl, name_token name free]
    rfl
  · intro found
    rw [tokenize] at found
    cases front : Straightedge.front name.toList with
    | finish gap =>
        rw [scan_finish _ _ _ front] at found
        cases found
    | invalid gap c =>
        rw [scan_invalid _ _ _ _ front] at found
        cases found
    | lexeme gap lexeme =>
        rw [scan_lexeme _ _ _ _ front] at found
        obtain ⟨rest, _, same⟩ := prepend_ok _ _ _ found
        obtain ⟨text, read⟩ := lexeme_of_front _ _ _ front
        have token : lexeme.token (0 + gap) = ⟨.identifier, name, 0⟩ := (List.cons.inj same).1
        have category : lexeme.category = .identifier := congrArg Token.category token
        have value : lexeme.value = name := congrArg Token.value token
        cases lexeme with
        | word word =>
            have free := word_identifier_free word category
            rw [Lexeme.value, free] at value
            rw [IsName, ← to_list_of_value word name value]
            exact ⟨word_of_front text word read, free⟩
        | number _ fractional => cases fractional <;> cases category
        | separator _ => cases category

-- What the tokens of a source are called by their categories.

structure Token.Telling (token : Token) : Prop where
  name : token.category = .identifier → IsName token.value
  operator : token.category = .operator → token.value ∈ Vocabulary.operators

theorem operator_reserved (word : String) (reserved : Vocabulary.reserved? word = some .operator) :
    word ∈ Vocabulary.operators := by
  rw [Vocabulary.reserved?] at reserved
  split at reserved
  · cases reserved
  · split at reserved
    · assumption
    · cases reserved

theorem word_telling (word : List Char) (isWord : Lexeme.IsWord word) (offset : Nat) :
    ((Lexeme.word word).token offset).Telling := by
  constructor
  · intro category
    have free := word_identifier_free word category
    have value : ((Lexeme.word word).token offset).value = String.ofList word := by
      simp [Lexeme.token, Lexeme.value, free]
    rw [value, IsName, String.toList_ofList]
    exact ⟨isWord, free⟩
  · intro category
    cases reserved : Lexeme.reserved? word with
    | none =>
        rw [Lexeme.token, Lexeme.category, reserved] at category
        cases category
    | some known =>
        have value : ((Lexeme.word word).token offset).value = String.ofList (capitals word) := by
          simp [Lexeme.token, Lexeme.value, reserved]
        rw [Lexeme.token, Lexeme.category, reserved] at category
        cases category
        rw [value]
        exact operator_reserved _ reserved

theorem tokenize_telling (source : String) (tokens : List Token) (found : tokenize source = .ok tokens) :
    ∀ token ∈ tokens, token.Telling := by
  refine scan_tokens Token.Telling (fun source lexeme offset read => ?_) 0 _ tokens found
  cases lexeme with
  | word word => exact word_telling word (word_of_front source word read) offset
  | number _ fractional => cases fractional <;> exact ⟨fun other => (by cases other), fun other => (by cases other)⟩
  | separator _ => exact ⟨fun other => (by cases other), fun other => (by cases other)⟩

end Straightedge
