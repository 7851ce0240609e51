import Mathlib.Data.List.TakeDrop
import Straightedge.Number.Layout
import Straightedge.Number.Literal
import Straightedge.Proofs.Number.Numeral
import Straightedge.Proofs.Text.Character

namespace Straightedge.Literal

open Text

def Plain (c : Char) : Prop := c.isDigit = true ∨ c = '-' ∨ c = '.'

-- Such a character is taken as it is, wherever it stands in a literal.
structure Kept (c : Char) : Prop where
  solid : isPadding c = false
  same : plainDigit c = c
  single : c ≠ '_'

theorem plain_kept (c : Char) (plain : Plain c) : Kept c := by
  rcases plain with digit | rfl | rfl
  · refine ⟨?_, digit_cases (fun c => plainDigit c = c) (by decide) c digit, digit_cases (fun c => c ≠ '_') (by decide) c digit⟩
    rw [isPadding, digit_not_blank c digit]
    rfl
  · exact ⟨by decide, by decide, by decide⟩
  · exact ⟨by decide, by decide, by decide⟩

theorem trim_kept (text : List Char) (kept : ∀ c ∈ text, Kept c) : trim text = text := by
  have keep (row : List Char) (rowKept : ∀ c ∈ row, Kept c) : row.dropWhile isPadding = row := by
    cases row with
    | nil => rfl
    | cons c rest =>
        exact List.dropWhile_cons_of_neg (by simp [(rowKept c List.mem_cons_self).solid])
  rw [trim, keep text kept, keep text.reverse, List.reverse_reverse]
  exact fun c member => kept c (List.mem_reverse.mp member)

theorem ungroup_kept (previous : Char) (text : List Char) (kept : ∀ c ∈ text, Kept c) :
    ungroup? previous text = some text := by
  induction text generalizing previous with
  | nil => rfl
  | cons c rest ih =>
      have different := (kept c List.mem_cons_self).single
      have tail := ih c fun d member => kept d (List.mem_cons_of_mem c member)
      rw [ungroup?, tail, Option.map_some]
      · exact fun same _ => different same
      · exact fun _ _ same _ => different same

theorem plain_text_kept (text : List Char) (kept : ∀ c ∈ text, Kept c) :
    plainText? (String.ofList text) = some text := by
  have same : text.map plainDigit = text :=
    (List.map_congr_left fun c member => (kept c member).same).trans (List.map_id text)
  rw [plainText?, String.toList_ofList, trim_kept text kept, same, ungroup_kept ' ' text kept]

theorem plain_text_plain (text : List Char) (plain : ∀ c ∈ text, Plain c) :
    plainText? (String.ofList text) = some text :=
  plain_text_kept text fun c member => plain_kept c (plain c member)

theorem signed_plain (negative : Bool) (text : List Char) (plain : ∀ c ∈ text, Plain c) :
    ∀ c ∈ Layout.signed negative text, Plain c := by
  cases negative with
  | false => exact plain
  | true =>
      intro c member
      rcases List.mem_cons.mp member with rfl | inText
      · exact .inr (.inl rfl)
      · exact plain c inText

theorem split_sign_signed (negative : Bool) (c : Char) (rest : List Char) (digit : c.isDigit = true) :
    splitSign (Layout.signed negative (c :: rest)) = (negative, c :: rest) := by
  cases negative with
  | true => rfl
  | false =>
      have noMinus : c ≠ '-' := digit_cases (fun c => c ≠ '-') (by decide) c digit
      have noPlus : c ≠ '+' := digit_cases (fun c => c ≠ '+') (by decide) c digit
      rw [Layout.signed, if_neg (by decide), splitSign]
      · exact fun _ same => noMinus (List.cons.inj same).1
      · exact fun _ same => noPlus (List.cons.inj same).1

theorem integer_of_digits (negative : Bool) (digits : List Char) (all : Numeral.Digits digits) (filled : digits ≠ []) :
    integer? (String.ofList (Layout.signed negative digits)) = if digits.length ≤ Numeral.longest then
      some (if negative then -(Numeral.value digits : Int) else Numeral.value digits) else none := by
  have plain := signed_plain negative digits fun c member => .inl (all c member)
  obtain ⟨c, rest, rfl⟩ := List.exists_cons_of_ne_nil filled
  have digit := all c List.mem_cons_self
  have every : (c :: rest).all Char.isDigit = true := List.all_eq_true.mpr all
  rw [integer?, integer, plain_text_plain _ plain, Option.map_some, split_sign_signed negative c rest digit]
  simp only [every, List.isEmpty_cons, Bool.not_true, Bool.or_self, Bool.false_eq_true, if_false]
  by_cases short : (c :: rest).length ≤ Numeral.longest
  · rw [if_pos short, if_pos short]
    rfl
  · rw [if_neg short, if_neg short]
    rfl

theorem integer_reads (negative : Bool) (digits : List Char) (all : Numeral.Digits digits)
    (filled : digits ≠ []) (short : digits.length ≤ Numeral.longest) :
    integer? (String.ofList (Layout.signed negative digits)) =
      some (if negative then -(Numeral.value digits : Int) else Numeral.value digits) := by
  rw [integer_of_digits negative digits all filled, if_pos short]

theorem span_digits (digits rest : List Char) (all : Numeral.Digits digits)
    (stop : ∀ c ∈ rest.head?, c.isDigit = false) :
    (digits ++ rest).span Char.isDigit = (digits, rest) := by
  obtain ⟨taken, left⟩ := taken_whole Char.isDigit digits rest all stop
  rw [List.span_eq_takeWhile_dropWhile, taken, left]

-- The digits of a decimal without its point, as a number, and the exponent that goes with them.
def parts? (text : List Char) : Option (Nat × Int) := do
  let (whole, rest) := text.span Char.isDigit
  let (fraction, tail) := splitFraction rest
  let digits := whole ++ fraction
  guard !digits.isEmpty
  return (Numeral.value digits, (← exponent? tail) - fraction.length)

theorem decimal_parts (negative : Bool) (text : List Char) :
    decimal? negative text = (parts? text).map fun parts => Binary64.ofDecimal negative parts.1 parts.2 := by
  simp only [decimal?, parts?, Option.bind_eq_bind, Option.map_bind, Function.comp_def, Option.pure_def, Option.map_some]

theorem parts_point (whole fraction : List Char) (wholeDigits : Numeral.Digits whole)
    (fractionDigits : Numeral.Digits fraction) (filled : whole ≠ []) :
    parts? (whole ++ '.' :: fraction) = some (Numeral.value (whole ++ fraction), (0 - fraction.length : Int)) := by
  have front := span_digits whole ('.' :: fraction) wholeDigits (by simp)
  have back := span_digits fraction [] fractionDigits (by simp)
  rw [List.append_nil] at back
  have some : (whole ++ fraction).isEmpty = false := by
    rw [List.isEmpty_eq_false_iff]
    exact List.append_ne_nil_of_left_ne_nil filled fraction
  simp only [parts?, front, splitFraction, back, some, Bool.not_false, guard_true, exponent?]
  rfl

theorem name_apart (c : Char) (rest : List Char) (digit : c.isDigit = true) :
    ¬((c :: rest).map Char.toLower = "inf".toList ∨ (c :: rest).map Char.toLower = "infinity".toList) ∧
      (c :: rest).map Char.toLower ≠ "nan".toList := by
  have named : c.toLower ≠ 'i' ∧ c.toLower ≠ 'n' :=
    digit_cases (fun c => c.toLower ≠ 'i' ∧ c.toLower ≠ 'n') (by decide) c digit
  constructor
  · rintro (same | same) <;> exact named.1 (List.cons.inj same).1
  · exact fun same => named.2 (List.cons.inj same).1

theorem real_reads (negative : Bool) (whole fraction : List Char) (wholeDigits : Numeral.Digits whole)
    (fractionDigits : Numeral.Digits fraction) (filled : whole ≠ []) :
    real? (String.ofList (Layout.signed negative (whole ++ '.' :: fraction))) =
      some (Binary64.ofDecimal negative (Numeral.value (whole ++ fraction)) (0 - fraction.length)) := by
  have plain : ∀ c ∈ whole ++ '.' :: fraction, Plain c := by
    intro c member
    rcases List.mem_append.mp member with inWhole | tail
    · exact .inl (wholeDigits c inWhole)
    · rcases List.mem_cons.mp tail with rfl | inFraction
      · exact .inr (.inr rfl)
      · exact .inl (fractionDigits c inFraction)
  have parts := parts_point whole fraction wholeDigits fractionDigits filled
  obtain ⟨c, rest, rfl⟩ := List.exists_cons_of_ne_nil filled
  have digit := wholeDigits c List.mem_cons_self
  obtain ⟨noInfinity, noNan⟩ := name_apart c (rest ++ '.' :: fraction) digit
  rw [real?, plain_text_plain _ (signed_plain negative _ plain), Option.bind_eq_bind, Option.bind_some,
    List.cons_append, split_sign_signed negative c _ digit]
  dsimp only
  rw [if_neg noInfinity, if_neg noNan, ← List.cons_append, decimal_parts, parts, Option.map_some]

end Straightedge.Literal
