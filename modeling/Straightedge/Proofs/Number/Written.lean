import Straightedge.Parse.Place
import Straightedge.Write
import Straightedge.Proofs.Number.Decimal
import Straightedge.Proofs.Number.Literal
import Straightedge.Proofs.Number.Range

namespace Straightedge

inductive NumberForm : List Char → Bool → Prop where
  | integer (negative : Bool) (digits : List Char) (all : Numeral.Digits digits) (filled : digits ≠ []) :
      NumberForm (Layout.signed negative digits) false
  | fractional (negative : Bool) (whole fraction : List Char) (wholeDigits : Numeral.Digits whole)
      (wholeFilled : whole ≠ []) (fractionDigits : Numeral.Digits fraction) (fractionFilled : fraction ≠ []) :
      NumberForm (Layout.signed negative (whole ++ '.' :: fraction)) true

-- The point moves within the digits, or behind zeros that are put in front of or behind them.
theorem positional_form (digits : List Char) (lead : Int) (all : Numeral.Digits digits) (filled : digits ≠ []) :
    ∃ whole fraction, Layout.positionalText digits lead = whole ++ '.' :: fraction ∧
      Numeral.Digits whole ∧ whole ≠ [] ∧ Numeral.Digits fraction ∧ fraction ≠ [] ∧
      ∃ zeros : Nat, Numeral.value (whole ++ fraction) = Numeral.value digits * 10 ^ zeros ∧
        (0 - fraction.length : Int) = lead + 1 - digits.length - zeros := by
  cases lead with
  | negSucc zeros =>
      refine ⟨['0'], List.replicate zeros '0' ++ digits, rfl, Numeral.digits_replicate_zero 1, by simp,
        Numeral.digits_append _ _ (Numeral.digits_replicate_zero zeros) all,
        List.append_ne_nil_of_right_ne_nil _ filled, 0, ?_, ?_⟩
      · rw [show ['0'] = List.replicate 1 '0' from rfl, Numeral.value_zeros_append, Numeral.value_zeros_append,
          Nat.pow_zero, Nat.mul_one]
      · simp only [List.length_append, List.length_replicate]
        omega
  | ofNat lead =>
      by_cases inside : lead + 1 < digits.length
      · have fractionFilled : digits.drop (lead + 1) ≠ [] := by
          intro empty
          have short := List.drop_eq_nil_iff.mp empty
          omega
        refine ⟨digits.take (lead + 1), digits.drop (lead + 1), ?_, Numeral.digits_take _ _ all, ?_,
          Numeral.digits_drop _ _ all, fractionFilled, 0, ?_, ?_⟩
        · have none : lead + 1 - digits.length = 0 := by omega
          simp [Layout.positionalText, none, fractionFilled]
        · intro empty
          rcases List.take_eq_nil_iff.mp empty with zero | empty
          · omega
          · exact filled empty
        · rw [List.take_append_drop, Nat.pow_zero, Nat.mul_one]
        · rw [List.length_drop, Int.ofNat_eq_natCast]
          omega
      · have fractionEmpty : digits.drop (lead + 1) = [] := List.drop_eq_nil_of_le (by omega)
        have whole : digits.take (lead + 1) = digits := List.take_of_length_le (by omega)
        refine ⟨digits ++ List.replicate (lead + 1 - digits.length) '0', ['0'], ?_,
          Numeral.digits_append _ _ all (Numeral.digits_replicate_zero _),
          List.append_ne_nil_of_left_ne_nil filled _, Numeral.digits_replicate_zero 1, by simp,
          lead + 1 - digits.length + 1, ?_, ?_⟩
        · simp [Layout.positionalText, fractionEmpty, whole]
        · have zeros : digits ++ List.replicate (lead + 1 - digits.length) '0' ++ ['0'] =
              digits ++ List.replicate (lead + 1 - digits.length + 1) '0' := by
            rw [List.append_assoc, List.replicate_succ']
          rw [zeros, Numeral.value_append_zeros]
        · simp only [List.length_singleton, Int.ofNat_eq_natCast]
          omega

-- The numbers that a source can hold.
def Number.Writable : Number → Prop
  | .integer n => n.natAbs < 2 ^ 1024 - 2 ^ 970
  | .real value => value.isFinite = true

theorem signed_magnitude (n : Int) : (if decide (n < 0) then -(n.natAbs : Int) else n.natAbs) = n := by
  by_cases negative : n < 0
  · rw [decide_eq_true negative, if_pos rfl]
    omega
  · rw [decide_eq_false negative, if_neg Bool.false_ne_true]
    omega

theorem integer_text (n : Int) :
    Layout.signed (decide (n < 0)) (Numeral.digits n.natAbs) = Numeral.integer n := by
  simp [Layout.signed, Numeral.integer]

theorem integer_reads_back (n : Int) (short : Numeral.Short n) :
    Literal.integer? (String.ofList (Numeral.integer n)) = some n := by
  have reads := Literal.integer_reads (decide (n < 0)) (Numeral.digits n.natAbs)
    (Numeral.digits_digits n.natAbs) (Numeral.digits_ne_nil n.natAbs) short
  rwa [integer_text, Numeral.value_digits, signed_magnitude] at reads

theorem range_short (n : Int) (inRange : n.natAbs < 2 ^ 1024 - 2 ^ 970) : Numeral.Short n := by
  have bound : n.natAbs < 10 ^ (308 + 1) := Nat.lt_of_lt_of_le inRange (by decide +kernel)
  exact Nat.le_trans (Numeral.digits_length_le n.natAbs 308 bound) (by decide)

theorem short_written (n : Int) (short : Numeral.Short n) :
    (Number.integer n).write = .ok (String.ofList (Numeral.integer n)) := by
  rw [Number.write, Number.written, Numeral.written, if_pos short]
  rfl

theorem integer_written (n : Int) (inRange : n.natAbs < 2 ^ 1024 - 2 ^ 970) (offset : Nat) :
    ((Lexeme.number (Numeral.integer n) false).token offset).number? = some (.integer n) := by
  have reads := integer_reads_back n (range_short n inRange)
  have finite : (Number.integer n).isFinite = true := (Number.integer_finite n).mpr inRange
  simp [Lexeme.token, Lexeme.category, Lexeme.value, Lexeme.text, Token.number_filtered, reads, finite]

theorem real_written (negative : Bool) (rank : Fin Binary64.ranks) :
    ∃ text, Layout.plain.real (.finite negative rank) = text ∧ NumberForm text true ∧
      ∀ offset, ((Lexeme.number text true).token offset).number? = some (.real (.finite negative rank)) := by
  obtain ⟨all, filled, exact⟩ := Binary64.shortest_reads_back negative rank
  obtain ⟨whole, fraction, shape, wholeDigits, wholeFilled, fractionDigits, fractionFilled, zeros, scaled, places⟩ :=
    positional_form _ (Binary64.shortest rank).lead all filled
  have reads := Literal.real_reads negative whole fraction wholeDigits fractionDigits wholeFilled
  rw [scaled, places, Binary64.of_decimal_shift, Int.sub_add_cancel, exact] at reads
  have text : Layout.plain.real (.finite negative rank) = Layout.signed negative (whole ++ '.' :: fraction) :=
    congrArg (Layout.signed negative) shape
  refine ⟨_, text, .fractional negative whole fraction wholeDigits wholeFilled fractionDigits fractionFilled,
    fun offset => ?_⟩
  simp [Lexeme.token, Lexeme.category, Lexeme.value, Lexeme.text, Token.number_filtered, reads, Number.isFinite,
    Binary64.isFinite]

theorem number_written (value : Number) (writable : value.Writable) :
    ∃ text fractional, value.write = .ok (String.ofList text) ∧ NumberForm text fractional ∧
      ∀ offset, ((Lexeme.number text fractional).token offset).number? = some value := by
  cases value with
  | integer n =>
      have form := NumberForm.integer (decide (n < 0)) (Numeral.digits n.natAbs)
        (Numeral.digits_digits n.natAbs) (Numeral.digits_ne_nil n.natAbs)
      rw [integer_text] at form
      exact ⟨Numeral.integer n, false, short_written n (range_short n writable), form, integer_written n writable⟩
  | real value =>
      cases value with
      | finite negative rank =>
          obtain ⟨text, shape, form, reads⟩ := real_written negative rank
          have finite : (Binary64.finite negative rank).isFinite = true := rfl
          refine ⟨text, true, ?_, form, reads⟩
          rw [Number.write, if_pos finite, Number.text, shape]
      | infinite negative => exact absurd writable Bool.false_ne_true
      | nan => exact absurd writable Bool.false_ne_true

end Straightedge
