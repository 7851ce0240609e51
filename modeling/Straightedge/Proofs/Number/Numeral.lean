import Mathlib.Data.List.Induction
import Mathlib.Tactic.Ring
import Straightedge.Number.Numeral

namespace Straightedge.Numeral

def Digits (text : List Char) : Prop := ∀ c ∈ text, c.isDigit = true

theorem digits_append (left right : List Char) (leftDigits : Digits left) (rightDigits : Digits right) :
    Digits (left ++ right) := by
  intro c member
  rcases List.mem_append.mp member with inLeft | inRight
  · exact leftDigits c inLeft
  · exact rightDigits c inRight

theorem digits_replicate_zero (count : Nat) : Digits (List.replicate count '0') := by
  intro c member
  rw [List.eq_of_mem_replicate member]
  rfl

theorem digits_take (text : List Char) (count : Nat) (all : Digits text) : Digits (text.take count) :=
  fun c member => all c (List.mem_of_mem_take member)

theorem digits_drop (text : List Char) (count : Nat) (all : Digits text) : Digits (text.drop count) :=
  fun c member => all c (List.mem_of_mem_drop member)

theorem digits_digits (n : Nat) : Digits (digits n) := by
  induction n using Nat.strongRecOn with
  | ind n ih =>
      by_cases small : n < 10
      · rw [digits_of_lt n small]
        simp [Digits, Nat.isDigit_digitChar, small]
      · have remainder : n % 10 < 10 := Nat.mod_lt n (by decide)
        rw [digits_step n (by omega)]
        refine digits_append _ _ (ih (n / 10) (by omega)) ?_
        simp [Digits, Nat.isDigit_digitChar, remainder]

theorem digits_length_le (n places : Nat) (bound : n < 10 ^ (places + 1)) :
    (digits n).length ≤ places + 1 := by
  induction places generalizing n with
  | zero =>
      rw [digits_of_lt n (by omega)]
      simp
  | succ places ih =>
      by_cases small : n < 10
      · rw [digits_of_lt n small]
        simp
      · have shorter := ih (n / 10) (by rw [Nat.pow_succ] at bound; omega)
        rw [digits_step n (by omega), List.length_append, List.length_singleton]
        omega

theorem lt_digits_length (n : Nat) : n < 10 ^ (digits n).length := by
  induction n using Nat.strongRecOn with
  | ind n ih =>
      by_cases small : n < 10
      · rw [digits_of_lt n small]
        exact small
      · have shorter := ih (n / 10) (by omega)
        rw [digits_step n (by omega), List.length_append, List.length_singleton, Nat.pow_succ]
        omega

theorem short_iff (n : Int) : Short n ↔ n.natAbs < 10 ^ longest := by
  constructor
  · intro short
    exact Nat.lt_of_lt_of_le (lt_digits_length n.natAbs) (Nat.pow_le_pow_right (by decide) short)
  · intro bound
    have split : longest = 4299 + 1 := rfl
    rw [split] at bound
    exact digits_length_le n.natAbs 4299 bound

theorem value_append (left right : List Char) :
    value (left ++ right) = value left * 10 ^ right.length + value right := by
  induction right using List.reverseRecOn with
  | nil => simp [value]
  | append_singleton right c ih =>
      rw [← List.append_assoc, value_append_digit, ih, value_append_digit, List.length_append,
        List.length_singleton, Nat.pow_succ]
      ring

theorem value_zeros (count : Nat) : value (List.replicate count '0') = 0 := by
  induction count with
  | zero => rfl
  | succ count ih => rw [List.replicate_succ', value_append_digit, ih]; rfl

theorem value_zeros_append (count : Nat) (text : List Char) :
    value (List.replicate count '0' ++ text) = value text := by
  rw [value_append, value_zeros, Nat.zero_mul, Nat.zero_add]

theorem value_append_zeros (text : List Char) (count : Nat) :
    value (text ++ List.replicate count '0') = value text * 10 ^ count := by
  rw [value_append, value_zeros, List.length_replicate, Nat.add_zero]

end Straightedge.Numeral
