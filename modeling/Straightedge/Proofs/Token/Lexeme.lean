import Straightedge.Proofs.Number.Written
import Straightedge.Proofs.Text.Character
import Straightedge.Token.Lexeme

namespace Straightedge

open Text

theorem separator_cases (P : Char → Prop) (each : P '(' ∧ P ')' ∧ P ',' ∧ P '.') (c : Char)
    (separator : c ∈ Vocabulary.separators) : P c := by
  obtain ⟨opening, closing, comma, terminator⟩ := each
  have all : ∀ c ∈ Vocabulary.separators, P c := by
    simp only [Vocabulary.separators, List.forall_mem_cons]
    exact ⟨opening, closing, comma, terminator, fun _ none => (List.not_mem_nil none).elim⟩
  exact all c separator

namespace Lexeme

def IsWord (text : List Char) : Prop :=
  (∀ c ∈ text.head?, isWordStart c = true) ∧ text ≠ [] ∧ ∀ c ∈ text, isWordPart c = true

instance (text : List Char) : Decidable (IsWord text) :=
  decidable_of_iff (text.head?.all isWordStart = true ∧ text ≠ [] ∧ text.all isWordPart = true) (by
    simp only [IsWord, Option.all_eq_true, List.all_eq_true, Option.mem_def])

theorem front_word (word rest : List Char) (isWord : IsWord word)
    (stop : ∀ c ∈ rest.head?, isWordPart c = false) : front? (word ++ rest) = some (.word word) := by
  obtain ⟨starts, filled, parts⟩ := isWord
  obtain ⟨c, tail, rfl⟩ := List.exists_cons_of_ne_nil filled
  have whole := (taken_whole isWordPart (c :: tail) rest parts stop).1
  rw [List.cons_append] at whole ⊢
  rw [front?, if_pos (starts c rfl), whole]

theorem front_separator (c : Char) (rest : List Char) (separator : c ∈ Vocabulary.separators) :
    front? (c :: rest) = some (.separator c) := by
  have noWord := separator_cases (fun c => isWordStart c = false) (by decide) c separator
  have noDigit := separator_cases (fun c => c.isDigit = false) (by decide) c separator
  have noMinus := separator_cases (fun c => c ≠ '-') (by decide) c separator
  have noNumber : startsNumber (c :: rest) = false := by
    rw [startsNumber]
    · exact noDigit
    · exact noMinus
  rw [front?, noWord, noNumber, if_pos separator]
  rfl

-- A number ends before what is no digit, and before a point with no digit behind it.

theorem take_digits (digits rest : List Char) (all : Numeral.Digits digits)
    (stop : ∀ c ∈ rest.head?, c.isDigit = false) : (digits ++ rest).takeWhile Char.isDigit = digits := by
  have split := Literal.span_digits digits rest all stop
  rw [List.span_eq_takeWhile_dropWhile] at split
  exact congrArg Prod.fst split

theorem sign_signed (negative : Bool) (digits rest : List Char) (all : Numeral.Digits digits)
    (filled : digits ≠ []) :
    sign (Layout.signed negative digits ++ rest) = (if negative then ['-'] else []) ∧
      Layout.signed negative digits ++ rest = (if negative then ['-'] else []) ++ (digits ++ rest) := by
  obtain ⟨c, tail, rfl⟩ := List.exists_cons_of_ne_nil filled
  cases negative with
  | true => exact ⟨rfl, rfl⟩
  | false =>
      have noMinus : c ≠ '-' :=
        digit_cases (fun c => c ≠ '-') (by decide) c (all c List.mem_cons_self)
      refine ⟨?_, rfl⟩
      show sign (c :: (tail ++ rest)) = []
      rw [sign]
      exact fun _ same => noMinus (List.cons.inj same).1

theorem number_in_signed (negative : Bool) (digits rest : List Char) (all : Numeral.Digits digits)
    (filled : digits ≠ []) (stop : ∀ c ∈ rest.head?, c.isDigit = false) :
    numberIn (Layout.signed negative digits ++ rest) =
      .number (Layout.signed negative digits ++ fraction rest) !(fraction rest).isEmpty := by
  obtain ⟨front, split⟩ := sign_signed negative digits rest all filled
  have whole := take_digits digits rest all stop
  have written : Layout.signed negative digits = (if negative then ['-'] else []) ++ digits := by
    cases negative <;> rfl
  rw [numberIn, front, split]
  simp only [List.drop_left, whole]
  rw [← List.length_append, ← List.append_assoc, List.drop_left, written]

theorem fraction_digits (digits rest : List Char) (all : Numeral.Digits digits) (filled : digits ≠ [])
    (stop : ∀ c ∈ rest.head?, c.isDigit = false) : fraction ('.' :: (digits ++ rest)) = '.' :: digits := by
  obtain ⟨c, tail, rfl⟩ := List.exists_cons_of_ne_nil filled
  have digit := all c List.mem_cons_self
  have whole := take_digits (c :: tail) rest all stop
  rw [fraction, whole]
  simp [digit]

theorem number_in_form (text rest : List Char) (fractional : Bool) (form : NumberForm text fractional)
    (stop : ∀ c ∈ rest.head?, c.isDigit = false) (noFraction : fractional = false → fraction rest = []) :
    numberIn (text ++ rest) = .number text fractional := by
  cases form with
  | integer negative digits all filled =>
      rw [number_in_signed negative digits rest all filled stop, noFraction rfl, List.append_nil]
      rfl
  | fractional negative whole fraction wholeDigits wholeFilled fractionDigits fractionFilled =>
      have shape : Layout.signed negative (whole ++ '.' :: fraction) =
          Layout.signed negative whole ++ '.' :: fraction := by
        cases negative <;> rfl
      rw [shape, List.append_assoc, List.cons_append,
        number_in_signed negative whole _ wholeDigits wholeFilled (by simp),
        fraction_digits fraction rest fractionDigits fractionFilled stop]
      rfl

theorem starts_number_cons (c : Char) (rest : List Char) :
    startsNumber (c :: rest) = (c.isDigit || (c == '-' && rest.head?.any Char.isDigit)) := by
  by_cases minus : c = '-'
  · subst minus
    rfl
  · simp [startsNumber, minus]

theorem starts_number_signed (negative : Bool) (digits rest : List Char) (all : Numeral.Digits digits)
    (filled : digits ≠ []) : startsNumber (Layout.signed negative digits ++ rest) = true ∧
      ∀ c ∈ (Layout.signed negative digits ++ rest).head?, isWordStart c = false := by
  obtain ⟨c, tail, rfl⟩ := List.exists_cons_of_ne_nil filled
  have digit := all c List.mem_cons_self
  cases negative with
  | true =>
      refine ⟨by simp [Layout.signed, startsNumber, digit], ?_⟩
      intro d head
      cases head
      decide
  | false =>
      have noMinus : c ≠ '-' := digit_cases (fun c => c ≠ '-') (by decide) c digit
      refine ⟨?_, ?_⟩
      · show startsNumber (c :: (tail ++ rest)) = true
        rw [startsNumber]
        · exact digit
        · exact noMinus
      · intro d head
        cases head
        exact digit_not_word_start c digit

theorem front_starts_number (source : List Char) (starts : startsNumber source = true)
    (noWord : ∀ c ∈ source.head?, isWordStart c = false) : front? source = some (numberIn source) := by
  cases source with
  | nil => cases starts
  | cons c rest =>
      rw [front?, noWord c rfl, if_neg Bool.false_ne_true, if_pos starts]

theorem front_number (text rest : List Char) (fractional : Bool) (form : NumberForm text fractional)
    (stop : ∀ c ∈ rest.head?, c.isDigit = false) (noFraction : fractional = false → fraction rest = []) :
    front? (text ++ rest) = some (.number text fractional) := by
  have read := number_in_form text rest fractional form stop noFraction
  have starts : startsNumber (text ++ rest) = true ∧ ∀ c ∈ (text ++ rest).head?, isWordStart c = false := by
    cases form with
    | integer negative digits all filled => exact starts_number_signed negative digits rest all filled
    | fractional negative whole fraction wholeDigits wholeFilled _ _ =>
        have shape : Layout.signed negative (whole ++ '.' :: fraction) ++ rest =
            Layout.signed negative whole ++ ('.' :: fraction ++ rest) := by
          cases negative <;> simp [Layout.signed]
        rw [shape]
        exact starts_number_signed negative whole _ wholeDigits wholeFilled
  rw [front_starts_number _ starts.1 starts.2, read]

end Lexeme

end Straightedge
