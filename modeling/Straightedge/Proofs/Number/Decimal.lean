import Mathlib.Data.List.TakeWhile
import Straightedge.Number.Shortest
import Straightedge.Proofs.Number.Numeral
import Straightedge.Proofs.Number.Rounding

namespace Straightedge.Binary64

theorem nearest_congr (negative : Bool) (a b c d : Nat) (bPositive : 0 < b) (dPositive : 0 < d)
    (same : a * d = c * b) : nearest negative a b = nearest negative c d := by
  rw [nearest, nearest, nearest_rank_congr a b c d bPositive dPositive same]

theorem nearest_units (negative : Bool) (rank : Fin ranks) :
    nearest negative (units rank) 1 = .finite negative rank := by
  rw [nearest, nearest_rank_units, ofRank, dif_pos rank.isLt]

theorem nearest_sign (negative : Bool) (n d : Nat) (rank : Fin ranks)
    (found : nearest false n d = .finite false rank) : nearest negative n d = .finite negative rank := by
  simp only [nearest, ofRank] at found ⊢
  split at found
  · rename_i inside
    rw [dif_pos inside]
    cases found
    rfl
  · cases found

theorem nearest_beyond (negative : Bool) (n : Nat) (beyond : rangeEnd * 2 ^ 1074 ≤ n) :
    nearest negative n 1 = .infinite negative := by
  have outside : ¬ nearestRank n 1 < ranks := by
    rw [nearest_rank_in_range n 1 (by decide)]
    omega
  rw [nearest, ofRank, dif_neg outside]

theorem nearest_tiny (negative : Bool) (n d : Nat) (tiny : 2 * n < d) :
    nearest negative n d = zero negative := by
  have inside : InBinade n d 0 := by
    have room : d ≤ d * 2 ^ (0 + 53) := Nat.le_mul_of_pos_right d (Nat.two_pow_pos _)
    exact ⟨by omega, .inl rfl⟩
  have empty : n / d = 0 := Nat.div_eq_of_lt (by omega)
  have whole : n % d = n := Nat.mod_eq_of_lt (by omega)
  have down : roundEven n d = 0 := by simp [roundEven, empty, whole, tiny]
  rw [nearest, nearest_rank_of_binade n d 0 (by omega) inside]
  simp [down, zero]

-- The two exponents that are cut off give what rounding would have given.

theorem of_decimal_nearest (negative : Bool) (digits : Nat) (exponent : Int) :
    ofDecimal negative digits exponent =
      nearest negative (digits * 10 ^ exponent.toNat * 2 ^ 1074) (10 ^ (-exponent).toNat) := by
  by_cases none : digits = 0
  · subst none
    unfold ofDecimal
    rw [if_pos rfl]
    refine (nearest_tiny negative _ _ ?_).symm
    rw [Nat.zero_mul, Nat.zero_mul]
    exact Nat.pow_pos (by decide)
  · have filled : 0 < digits := Nat.pos_of_ne_zero none
    unfold ofDecimal
    rw [if_neg none]
    cases exponent with
    | ofNat power =>
        have undivided : (-(Int.ofNat power)).toNat = 0 := by
          rw [Int.toNat_eq_zero]
          exact Int.neg_nonpos_of_nonneg (Int.natCast_nonneg power)
        have whole : (Int.ofNat power).toNat = power := rfl
        rw [undivided, Nat.pow_zero, whole]
        by_cases huge : 309 < power
        · have size : rangeEnd ≤ digits * 10 ^ power := by
            calc rangeEnd ≤ 10 ^ 309 := by decide +kernel
              _ ≤ 10 ^ power := Nat.pow_le_pow_right (by decide) (by omega)
              _ ≤ digits * 10 ^ power := Nat.le_mul_of_pos_left _ filled
          rw [nearest_beyond negative _ (Nat.mul_le_mul_right (2 ^ 1074) size)]
          exact if_pos huge
        · exact if_neg huge
    | negSucc power =>
        have divided : (-(Int.negSucc power)).toNat = power + 1 := by
          rw [Int.neg_negSucc]
          rfl
        have whole : (Int.negSucc power).toNat = 0 := rfl
        rw [divided, whole, Nat.pow_zero, Nat.mul_one]
        by_cases faint : digits.log2 + 1200 < power
        · have size : 2 * (digits * 2 ^ 1074) < 10 ^ (power + 1) := by
            calc 2 * (digits * 2 ^ 1074) < 2 * (2 ^ (digits.log2 + 1) * 2 ^ 1074) := by
                  refine Nat.mul_lt_mul_of_pos_left ?_ (by decide)
                  exact Nat.mul_lt_mul_of_pos_right Nat.lt_log2_self (Nat.two_pow_pos _)
              _ = 2 ^ (1 + (digits.log2 + 1 + 1074)) := by
                  rw [← Nat.pow_add, Nat.pow_add 2 1, Nat.pow_one]
              _ ≤ 2 ^ (power + 1) := Nat.pow_le_pow_right (by decide) (by omega)
              _ ≤ 10 ^ (power + 1) := Nat.pow_le_pow_left (by decide) _
          exact (if_pos faint).trans (nearest_tiny negative _ _ size).symm
        · exact if_neg faint

theorem of_decimal_shift (negative : Bool) (digits places : Nat) (exponent : Int) :
    ofDecimal negative (digits * 10 ^ places) exponent = ofDecimal negative digits (exponent + places) := by
  rw [of_decimal_nearest, of_decimal_nearest]
  refine nearest_congr _ _ _ _ _ (Nat.pow_pos (by decide)) (Nat.pow_pos (by decide)) ?_
  have exponents : places + exponent.toNat + (-(exponent + places)).toNat =
      (exponent + places).toNat + (-exponent).toNat := by omega
  have powers := congrArg (10 ^ ·) exponents
  simp only [Nat.pow_add] at powers
  calc digits * 10 ^ places * 10 ^ exponent.toNat * 2 ^ 1074 * 10 ^ (-(exponent + places)).toNat
      = digits * 2 ^ 1074 * (10 ^ places * 10 ^ exponent.toNat * 10 ^ (-(exponent + places)).toNat) := by
        generalize 2 ^ 1074 = unit
        ring
    _ = digits * 2 ^ 1074 * (10 ^ (exponent + places).toNat * 10 ^ (-exponent).toNat) := by rw [powers]
    _ = digits * 10 ^ (exponent + places).toNat * 2 ^ 1074 * 10 ^ (-exponent).toNat := by
        generalize 2 ^ 1074 = unit
        ring

theorem of_decimal_sign (negative : Bool) (digits : Nat) (exponent : Int) (rank : Fin ranks)
    (found : ofDecimal false digits exponent = .finite false rank) :
    ofDecimal negative digits exponent = .finite negative rank := by
  rw [of_decimal_nearest] at found ⊢
  exact nearest_sign negative _ _ rank found

-- The digits that are searched for read back by the test of the search, or else are exact.

theorem nearest_places (negative : Bool) (n places : Nat) :
    nearest negative (n * 5 ^ places * 2 ^ places) (10 ^ places) = nearest negative n 1 := by
  refine nearest_congr negative _ _ _ _ (Nat.pow_pos (by decide)) (by decide) ?_
  rw [Nat.mul_one, Nat.mul_assoc, ← Nat.mul_pow]

theorem exact_decimal_reads_back (rank : Fin ranks) :
    ofDecimal false (exactDecimal rank) ((0 : Nat) - 1074) = .finite false rank := by
  have whole : (((0 : Nat) : Int) - 1074).toNat = 0 := by decide
  have divided : (-(((0 : Nat) : Int) - 1074)).toNat = 1074 := by decide
  rw [of_decimal_nearest, whole, divided, exactDecimal, Nat.pow_eq, Nat.pow_zero,
    Nat.mul_one (units rank * 5 ^ 1074), nearest_places false (units rank) 1074, nearest_units]

theorem shortest_from_reads_back (rank : Fin ranks) (exact dropped digits kept : Nat)
    (exactReads : ofDecimal false exact ((0 : Nat) - 1074) = .finite false rank)
    (found : shortestFrom rank exact dropped = (digits, kept)) :
    ofDecimal false digits (kept - 1074) = .finite false rank := by
  induction dropped with
  | zero =>
      simp only [shortestFrom, Prod.mk.injEq] at found
      obtain ⟨rfl, rfl⟩ := found
      exact exactReads
  | succ dropped ih =>
      simp only [shortestFrom] at found
      split at found
      · rename_i candidate hit
        simp only [Prod.mk.injEq] at found
        obtain ⟨rfl, rfl⟩ := found
        have reads := List.find?_some hit
        simpa only [readsBack, beq_iff_eq] using reads
      · exact ih found

theorem trim_zeros_append (digits : List Char) :
    ∃ count, digits = trimZeros digits ++ List.replicate count '0' := by
  refine ⟨(digits.reverse.takeWhile (· == '0')).length, ?_⟩
  have zeros : digits.reverse.takeWhile (· == '0') =
      List.replicate (digits.reverse.takeWhile (· == '0')).length '0' := by
    refine List.eq_replicate_of_mem fun c member => ?_
    simpa using List.mem_takeWhile_imp member
  calc digits = (digits.reverse.takeWhile (· == '0') ++ digits.reverse.dropWhile (· == '0')).reverse := by
        rw [List.takeWhile_append_dropWhile, List.reverse_reverse]
    _ = trimZeros digits ++ (digits.reverse.takeWhile (· == '0')).reverse := by
        rw [List.reverse_append, trimZeros]
    _ = trimZeros digits ++ List.replicate (digits.reverse.takeWhile (· == '0')).length '0' := by
        rw [zeros, List.reverse_replicate, List.length_replicate]

theorem trimmed_reads_back (rank : Fin ranks) (digits dropped : Nat) (nonzero : rank.val ≠ 0)
    (reads : ofDecimal false digits (dropped - 1074) = .finite false rank) :
    let row := Numeral.digits digits
    let lead : Int := row.length - 1 + dropped - 1074
    Numeral.Digits (trimZeros row) ∧ trimZeros row ≠ [] ∧
      ofDecimal false (Numeral.value (trimZeros row)) (lead + 1 - (trimZeros row).length) =
        .finite false rank := by
  intro row lead
  obtain ⟨count, split⟩ := trim_zeros_append row
  have length : row.length = (trimZeros row).length + count := by
    have both := congrArg List.length split
    rwa [List.length_append, List.length_replicate] at both
  have number : digits = Numeral.value (trimZeros row) * 10 ^ count := by
    rw [← Numeral.value_append_zeros, ← split, Numeral.value_digits]
  have moved : ofDecimal false (Numeral.value (trimZeros row)) (lead + 1 - (trimZeros row).length) =
      .finite false rank := by
    rw [number, of_decimal_shift] at reads
    rw [← reads]
    congr 1
    simp only [lead]
    omega
  refine ⟨?_, ?_, moved⟩
  · intro c member
    refine Numeral.digits_digits digits c ?_
    rw [show Numeral.digits digits = row from rfl, split]
    exact List.mem_append_left _ member
  · intro empty
    rw [empty] at moved
    have zeroRead : ofDecimal false 0 (lead + 1 - ([] : List Char).length) = zero false := if_pos rfl
    have inside : 0 < ranks := by decide
    rw [show Numeral.value [] = 0 from rfl, zeroRead, zero, ofRank, dif_pos inside] at moved
    cases moved
    exact nonzero rfl

theorem shortest_found (rank : Fin ranks) (nonzero : rank.val ≠ 0) (exact digits dropped : Nat)
    (known : exactDecimal rank = exact) (found : shortestFrom rank exact (placesBound exact) = (digits, dropped)) :
    shortest rank = ⟨trimZeros (Numeral.digits digits), (Numeral.digits digits).length - 1 + dropped - 1074⟩ := by
  rw [shortest, if_neg nonzero, known]
  extract_lets
  -- unfolding the search on the exact decimal would compute with a thousand digits
  generalize shortestFrom rank exact (placesBound exact) = hit at found ⊢
  rw [found]

theorem shortest_reads_back (negative : Bool) (rank : Fin ranks) :
    Numeral.Digits (shortest rank).digits ∧ (shortest rank).digits ≠ [] ∧
      ofDecimal negative (Numeral.value (shortest rank).digits)
        ((shortest rank).lead + 1 - (shortest rank).digits.length) = .finite negative rank := by
  by_cases nothing : rank.val = 0
  · have digit : shortest rank = ⟨['0'], 0⟩ := if_pos nothing
    have read : ofDecimal negative 0 ((0 : Int) + 1 - (1 : Nat)) = zero negative := if_pos rfl
    have inside : 0 < ranks := by decide
    have same : rank = ⟨0, inside⟩ := Fin.ext nothing
    rw [digit]
    refine ⟨by simp [Numeral.Digits], by simp, read.trans ?_⟩
    rw [zero, ofRank, dif_pos inside, same]
  · have exactReads := exact_decimal_reads_back rank
    generalize known : exactDecimal rank = exact at exactReads
    generalize found : shortestFrom rank exact (placesBound exact) = hit
    obtain ⟨digits, dropped⟩ := hit
    have reads := shortest_from_reads_back rank exact _ digits dropped exactReads found
    rw [shortest_found rank nothing exact digits dropped known found]
    obtain ⟨all, filled, trimmed⟩ := trimmed_reads_back rank digits dropped nothing reads
    exact ⟨all, filled, of_decimal_sign negative _ _ rank trimmed⟩

end Straightedge.Binary64
