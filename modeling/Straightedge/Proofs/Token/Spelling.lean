import Straightedge.Proofs.Token.Gap
import Straightedge.Proofs.Token.Lexeme

namespace Straightedge

open Text

theorem separator_not_blank (c : Char) (separator : c ∈ Vocabulary.separators) :
    isBlank c = false ∧ c ≠ commentMark :=
  separator_cases (fun c => isBlank c = false ∧ c ≠ commentMark) (by decide) c separator

theorem lexeme_starts (c : Char) (rest : List Char) (lexeme : Lexeme)
    (read : Lexeme.front? (c :: rest) = some lexeme) : isBlank c = false ∧ c ≠ commentMark := by
  simp only [Lexeme.front?] at read
  split at read
  · rename_i starts
    refine ⟨word_start_not_blank c starts, ?_⟩
    rintro rfl
    revert starts
    decide
  · split at read
    · rename_i starts
      by_cases minus : c = '-'
      · subst minus
        decide
      · have digit : c.isDigit = true := by simpa [Lexeme.startsNumber, minus] using starts
        exact ⟨digit_not_blank c digit, digit_cases (fun c => c ≠ commentMark) (by decide) c digit⟩
    · split at read
      · rename_i separator
        exact separator_not_blank c separator
      · cases read

theorem gap_length_none (c : Char) (rest : List Char) (noBlank : isBlank c = false) (noComment : c ≠ commentMark) :
    gapLength false (c :: rest) = 0 := by
  rw [gapLength, noBlank, if_neg Bool.false_ne_true, if_neg noComment]

theorem gap_length_lexeme (source : List Char) (lexeme : Lexeme) (read : Lexeme.front? source = some lexeme) :
    gapLength false source = 0 := by
  cases source with
  | nil => cases read
  | cons c rest =>
      obtain ⟨noBlank, noComment⟩ := lexeme_starts c rest lexeme read
      exact gap_length_none c rest noBlank noComment

theorem front_of_lexeme (source : List Char) (lexeme : Lexeme)
    (read : Lexeme.front? source = some lexeme) : front source = .lexeme 0 lexeme := by
  cases source with
  | nil => cases read
  | cons c rest => simp only [front, gap_length_lexeme _ lexeme read, List.drop_zero, read]

def prepend (tokens : List Token) (result : Except SyntaxError (List Token) × Nat) :
    Except SyntaxError (List Token) × Nat :=
  (result.1.map (tokens ++ ·), result.2)

theorem prepend_nil (result : Except SyntaxError (List Token) × Nat) : prepend [] result = result := by
  obtain ⟨found, stop⟩ := result
  cases found <;> rfl

theorem prepend_append (first second : List Token) (result : Except SyntaxError (List Token) × Nat) :
    prepend first (prepend second result) = prepend (first ++ second) result := by
  obtain ⟨found, stop⟩ := result
  cases found with
  | error error => rfl
  | ok tokens => simp [prepend, Except.map]

theorem scan_finish (offset gap : Nat) (source : List Char) (found : front source = .finish gap) :
    scan offset source = (.ok [], offset + gap) := by
  rw [scan]
  split <;> rename_i other <;> rw [found] at other <;> cases other
  rfl

theorem scan_invalid (offset gap : Nat) (source : List Char) (c : Char) (found : front source = .invalid gap c) :
    scan offset source =
      (.error ⟨.validCharacter, (offset + gap : Nat), String.singleton c⟩, offset + gap) := by
  rw [scan]
  split <;> rename_i other <;> rw [found] at other <;> cases other
  rfl

theorem scan_lexeme (offset gap : Nat) (source : List Char) (lexeme : Lexeme)
    (found : front source = .lexeme gap lexeme) :
    scan offset source = prepend [lexeme.token (offset + gap)]
      (scan (offset + (gap + lexeme.text.length)) (source.drop (gap + lexeme.text.length))) := by
  rw [scan]
  split <;> rename_i other <;> rw [found] at other <;> cases other
  rfl

-- What is found behind a gap is found in front of it, further on.
theorem front_gap (gap rest : List Char) (isGap : Gap gap rest) :
    front (gap ++ rest) = match front rest with
      | .finish inner => .finish (gap.length + inner)
      | .lexeme inner lexeme => .lexeme (gap.length + inner) lexeme
      | .invalid inner c => .invalid (gap.length + inner) c := by
  have left : (gap ++ rest).drop (gap.length + gapLength false rest) = rest.drop (gapLength false rest) :=
    List.drop_length_add_append _
  simp only [front, gap_length_gap gap rest isGap, left]
  split
  · rfl
  · split <;> rfl

theorem scan_gap (offset : Nat) (gap rest : List Char) (isGap : Gap gap rest) :
    scan offset (gap ++ rest) = scan (offset + gap.length) rest := by
  have moved := front_gap gap rest isGap
  cases found : front rest with
  | finish inner =>
      rw [found] at moved
      rw [scan_finish _ _ _ moved, scan_finish _ _ _ found, Nat.add_assoc]
  | invalid inner c =>
      rw [found] at moved
      rw [scan_invalid _ _ _ _ moved, scan_invalid _ _ _ _ found, Nat.add_assoc]
  | lexeme inner lexeme =>
      rw [found] at moved
      rw [scan_lexeme _ _ _ _ moved, scan_lexeme _ _ _ _ found]
      have size : gap.length + inner + lexeme.text.length = gap.length + (inner + lexeme.text.length) := Nat.add_assoc _ _ _
      rw [size, List.drop_length_add_append, Nat.add_assoc, Nat.add_assoc]

def Spells (offset : Nat) (text : List Char) (tokens : List Token) : Prop :=
  ∀ rest, scan offset (text ++ rest) = prepend tokens (scan (offset + text.length) rest)

theorem spells_append (offset : Nat) (first second : List Char) (before after : List Token)
    (front : Spells offset first before) (back : Spells (offset + first.length) second after) :
    Spells offset (first ++ second) (before ++ after) := by
  intro rest
  rw [List.append_assoc, front, back, prepend_append, List.length_append, Nat.add_assoc]

theorem spells_blank (offset : Nat) (c : Char) (blank : isBlank c = true) : Spells offset [c] [] := by
  intro rest
  rw [prepend_nil]
  exact scan_gap offset [c] rest (.blank c [] rest blank (.empty rest))

theorem spells_lexeme (offset : Nat) (lexeme : Lexeme) (next : List Char) (tokens : List Token)
    (reads : ∀ rest, Lexeme.front? (lexeme.text ++ (next ++ rest)) = some lexeme)
    (tail : Spells (offset + lexeme.text.length) next tokens) :
    Spells offset (lexeme.text ++ next) (lexeme.token offset :: tokens) := by
  intro rest
  rw [List.append_assoc, scan_lexeme offset 0 _ lexeme (front_of_lexeme _ _ (reads rest)),
    Nat.zero_add, List.drop_left, tail, prepend_append,
    List.length_append, Nat.add_assoc]
  rfl

end Straightedge
