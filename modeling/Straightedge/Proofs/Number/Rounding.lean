import Mathlib.Tactic.Linarith
import Mathlib.Tactic.Ring
import Straightedge.Number.Basic

namespace Straightedge.Binary64

theorem round_even_bounds (n d : Nat) : n / d ≤ roundEven n d ∧ roundEven n d ≤ n / d + 1 := by
  simp only [roundEven]
  split <;> omega

theorem round_even_scale (n d k : Nat) (positive : 0 < k) :
    roundEven (n * k) (d * k) = roundEven n d := by
  have quotient : n * k / (d * k) = n / d := Nat.mul_div_mul_right n d positive
  have remainder : n * k % (d * k) = n % d * k := Nat.mul_mod_mul_right k n d
  have less : 2 * (n % d * k) < d * k ↔ 2 * (n % d) < d := by
    rw [← Nat.mul_assoc]
    exact Nat.mul_lt_mul_right positive
  have equal : 2 * (n % d * k) = d * k ↔ 2 * (n % d) = d := by
    rw [← Nat.mul_assoc]
    exact Nat.mul_left_inj (Nat.ne_of_gt positive)
  simp only [roundEven, quotient, remainder, less, equal]

theorem round_even_exact (n d : Nat) (positive : 0 < d) : roundEven (n * d) d = n := by
  have quotient : n * d / d = n := Nat.mul_div_cancel n positive
  simp [roundEven, quotient, positive]

theorem quotient_mono (a b c d : Nat) (bPositive : 0 < b) (dPositive : 0 < d)
    (le : a * d ≤ c * b) : a / b ≤ c / d := by
  rw [Nat.le_div_iff_mul_le dPositive]
  refine Nat.le_of_mul_le_mul_right (Nat.le_trans ?_ le) bPositive
  calc a / b * d * b = a / b * b * d := by ring
    _ ≤ a * d := Nat.mul_le_mul_right d (Nat.div_mul_le_self a b)

theorem remainder_mono (a b c d : Nat) (same : a / b = c / d) (le : a * d ≤ c * b) :
    a % b * d ≤ c % d * b := by
  have left : a * d = b * (a / b) * d + a % b * d := by
    rw [← Nat.add_mul, Nat.div_add_mod]
  have right : c * b = d * (c / d) * b + c % d * b := by
    rw [← Nat.add_mul, Nat.div_add_mod]
  have whole : b * (a / b) * d = d * (c / d) * b := by rw [same]; ring
  omega

theorem round_even_mono (a b c d : Nat) (bPositive : 0 < b) (dPositive : 0 < d)
    (le : a * d ≤ c * b) : roundEven a b ≤ roundEven c d := by
  have floors := quotient_mono a b c d bPositive dPositive le
  by_cases same : a / b = c / d
  · have remainders := remainder_mono a b c d same le
    have up : b ≤ 2 * (a % b) → d ≤ 2 * (c % d) := by
      intro half
      refine Nat.le_of_mul_le_mul_right ?_ bPositive
      nlinarith
    have excess : b < 2 * (a % b) → d < 2 * (c % d) := by
      intro more
      refine Nat.lt_of_mul_lt_mul_right (a := b) ?_
      nlinarith
    simp only [roundEven, same]
    split <;> split <;> omega
  · have lower := (round_even_bounds a b).2
    have upper := (round_even_bounds c d).1
    omega

-- Halfway above an odd number the next one is taken.
theorem round_even_le_odd (n d m : Nat) (positive : 0 < d) (odd : m % 2 = 1) :
    roundEven n d ≤ m ↔ 2 * n < (2 * m + 1) * d := by
  have split := Nat.div_add_mod n d
  have small := Nat.mod_lt n positive
  have expand : (2 * m + 1) * d = 2 * (m * d) + d := by ring
  rcases Nat.lt_trichotomy (n / d) m with less | same | more
  · have bound : d * (n / d) + d ≤ m * d := by nlinarith
    have upper := (round_even_bounds n d).2
    omega
  · have whole : m * d = d * (n / d) := by rw [same, Nat.mul_comm]
    simp only [roundEven, same]
    split <;> omega
  · have bound : m * d + d ≤ d * (n / d) := by nlinarith
    have lower := (round_even_bounds n d).1
    omega

-- A magnitude lies in the binade of a shift if its steps are `2 ^ shift` units apart.

def InBinade (n d shift : Nat) : Prop :=
  n < d * 2 ^ (shift + 53) ∧ (shift = 0 ∨ d * 2 ^ (shift + 52) ≤ n)

theorem shift_in_binade (n d : Nat) (positive : 0 < d) : InBinade n d ((n / d).log2 - 52) := by
  have above : n < d * (n / d + 1) := Nat.lt_mul_div_succ n positive
  have below : d * (n / d) ≤ n := Nat.mul_div_le n d
  constructor
  · have power : n / d + 1 ≤ 2 ^ ((n / d).log2 - 52 + 53) :=
      Nat.le_trans Nat.lt_log2_self (Nat.pow_le_pow_right (by decide) (by omega))
    exact Nat.lt_of_lt_of_le above (Nat.mul_le_mul_left d power)
  · by_cases small : (n / d).log2 ≤ 52
    · exact .inl (by omega)
    · have filled : n / d ≠ 0 := by
        intro empty
        simp [empty] at small
      have exponent : (n / d).log2 - 52 + 52 = (n / d).log2 := by omega
      rw [exponent]
      exact .inr (Nat.le_trans (Nat.mul_le_mul_left d (Nat.log2_self_le filled)) below)

theorem binade_le (n d lower upper : Nat) (first : InBinade n d upper) (second : InBinade n d lower) :
    lower ≤ upper := by
  rcases second.2 with zero | reached
  · omega
  · have powers : 2 ^ (lower + 52) < 2 ^ (upper + 53) :=
      Nat.lt_of_mul_lt_mul_left (Nat.lt_of_le_of_lt reached first.1)
    have exponents := (Nat.pow_lt_pow_iff_right (by decide)).mp powers
    omega

theorem shift_of_binade (n d shift : Nat) (positive : 0 < d) (inside : InBinade n d shift) :
    (n / d).log2 - 52 = shift :=
  Nat.le_antisymm (binade_le n d _ _ inside (shift_in_binade n d positive))
    (binade_le n d _ _ (shift_in_binade n d positive) inside)

theorem nearest_rank_of_binade (n d shift : Nat) (positive : 0 < d) (inside : InBinade n d shift) :
    nearestRank n d = shift * 2 ^ 52 + roundEven n (d * 2 ^ shift) := by
  simp only [nearestRank, shift_of_binade n d shift positive inside, Nat.pow_eq]

theorem binade_scale (n d k shift : Nat) (positive : 0 < k) (inside : InBinade n d shift) :
    InBinade (n * k) (d * k) shift := by
  have move (exponent : Nat) : d * k * 2 ^ exponent = d * 2 ^ exponent * k := Nat.mul_right_comm _ _ _
  simp only [InBinade, move]
  exact ⟨Nat.mul_lt_mul_of_pos_right inside.1 positive, inside.2.imp_right (Nat.mul_le_mul_right k)⟩

theorem nearest_rank_scale (n d k : Nat) (dPositive : 0 < d) (kPositive : 0 < k) :
    nearestRank (n * k) (d * k) = nearestRank n d := by
  have inside := shift_in_binade n d dPositive
  rw [nearest_rank_of_binade _ _ _ (Nat.mul_pos dPositive kPositive) (binade_scale n d k _ kPositive inside),
    nearest_rank_of_binade n d _ dPositive inside, Nat.mul_right_comm, round_even_scale _ _ _ kPositive]

theorem nearest_rank_congr (a b c d : Nat) (bPositive : 0 < b) (dPositive : 0 < d)
    (same : a * d = c * b) : nearestRank a b = nearestRank c d := by
  rw [← nearest_rank_scale a b d bPositive dPositive, ← nearest_rank_scale c d b dPositive bPositive,
    same, Nat.mul_comm b d]

-- The significand that is rounded has 53 bits, and no fewer beyond the first two binades.

theorem significand_lower (n d shift : Nat) (positive : 0 < d) (reached : d * 2 ^ (shift + 52) ≤ n) :
    2 ^ 52 ≤ roundEven n (d * 2 ^ shift) := by
  refine Nat.le_trans ?_ (round_even_bounds n (d * 2 ^ shift)).1
  rw [Nat.le_div_iff_mul_le (Nat.mul_pos positive (Nat.two_pow_pos shift))]
  calc 2 ^ 52 * (d * 2 ^ shift) = d * 2 ^ (shift + 52) := by ring
    _ ≤ n := reached

theorem significand_upper (n d shift : Nat) (positive : 0 < d) (below : n < d * 2 ^ (shift + 53)) :
    roundEven n (d * 2 ^ shift) ≤ 2 ^ 53 := by
  refine Nat.le_trans (round_even_bounds n (d * 2 ^ shift)).2 ?_
  rw [Nat.succ_le_iff, Nat.div_lt_iff_lt_mul (Nat.mul_pos positive (Nat.two_pow_pos shift))]
  calc n < d * 2 ^ (shift + 53) := below
    _ = 2 ^ 53 * (d * 2 ^ shift) := by ring

theorem nearest_rank_mono (a b c d : Nat) (bPositive : 0 < b) (dPositive : 0 < d)
    (le : a * d ≤ c * b) : nearestRank a b ≤ nearestRank c d := by
  have left := shift_in_binade a b bPositive
  have right := shift_in_binade c d dPositive
  rw [nearest_rank_of_binade a b _ bPositive left, nearest_rank_of_binade c d _ dPositive right]
  generalize (a / b).log2 - 52 = p at left
  generalize (c / d).log2 - 52 = q at right
  rcases Nat.lt_trichotomy p q with less | same | more
  · have lower := significand_lower c d q dPositive (right.2.resolve_left (by omega))
    have upper := significand_upper a b p bPositive left.1
    omega
  · subst same
    refine Nat.add_le_add_left (round_even_mono _ _ _ _ (Nat.mul_pos bPositive (Nat.two_pow_pos p))
      (Nat.mul_pos dPositive (Nat.two_pow_pos p)) ?_) _
    calc a * (d * 2 ^ p) = a * d * 2 ^ p := by ring
      _ ≤ c * b * 2 ^ p := Nat.mul_le_mul_right _ le
      _ = c * (b * 2 ^ p) := by ring
  · -- the smaller quotient cannot lie in the higher binade
    have reached := left.2.resolve_left (by omega)
    have powers : 2 ^ (q + 53) ≤ 2 ^ (p + 52) := Nat.pow_le_pow_right (by decide) (by omega)
    have crossed : b * 2 ^ (p + 52) * d ≤ c * b :=
      Nat.le_trans (Nat.mul_le_mul_right d reached) le
    have capped : c * b < d * 2 ^ (p + 52) * b :=
      Nat.mul_lt_mul_of_pos_right (Nat.lt_of_lt_of_le right.1 (Nat.mul_le_mul_left d powers)) bPositive
    have equal : b * 2 ^ (p + 52) * d = d * 2 ^ (p + 52) * b := by ring
    omega

theorem nearest_rank_units (rank : Nat) : nearestRank (units rank) 1 = rank := by
  by_cases small : rank < 2 ^ 52
  · have value : units rank = rank := if_pos small
    have inside : InBinade rank 1 0 := ⟨by omega, .inl rfl⟩
    have exact := round_even_exact rank 1 (by decide)
    rw [Nat.mul_one] at exact
    rw [value, nearest_rank_of_binade rank 1 0 (by decide) inside]
    simpa using exact
  · have value : units rank = (2 ^ 52 + rank % 2 ^ 52) * 2 ^ (rank / 2 ^ 52 - 1) := if_neg small
    have remainder : rank % 2 ^ 52 < 2 ^ 52 := Nat.mod_lt rank (by decide)
    have whole := Nat.div_add_mod rank (2 ^ 52)
    have inside : InBinade (units rank) 1 (rank / 2 ^ 52 - 1) := by
      rw [value]
      constructor
      · rw [Nat.one_mul, Nat.add_comm _ 53, Nat.pow_add]
        exact Nat.mul_lt_mul_of_pos_right (by omega) (Nat.two_pow_pos _)
      · rw [Nat.one_mul, Nat.add_comm _ 52, Nat.pow_add]
        exact .inr (Nat.mul_le_mul_right _ (by omega))
    rw [nearest_rank_of_binade _ 1 _ (by decide) inside, value, Nat.one_mul,
      round_even_exact _ _ (Nat.two_pow_pos _)]
    omega

theorem nearest_rank_below_binade (n d top : Nat) (positive : 0 < d) :
    nearestRank n d < (top + 3) * 2 ^ 52 ↔ n < d * ((2 * (2 ^ 53 - 1) + 1) * 2 ^ top) := by
  have inside := shift_in_binade n d positive
  rw [nearest_rank_of_binade n d _ positive inside]
  generalize (n / d).log2 - 52 = shift at inside
  have upper := significand_upper n d shift positive inside.1
  rcases Nat.lt_trichotomy shift (top + 1) with less | same | more
  · have powers : 2 ^ (shift + 53) ≤ 2 ^ (53 + top) := Nat.pow_le_pow_right (by decide) (by omega)
    rw [Nat.pow_add 2 53 top] at powers
    have capped : 2 ^ 53 * 2 ^ top ≤ (2 * (2 ^ 53 - 1) + 1) * 2 ^ top :=
      Nat.mul_le_mul_right _ (by decide)
    have below := Nat.lt_of_lt_of_le inside.1 (Nat.mul_le_mul_left d (Nat.le_trans powers capped))
    exact iff_of_true (by omega) below
  · subst same
    have tie := round_even_le_odd n (d * 2 ^ (top + 1)) (2 ^ 53 - 1)
      (Nat.mul_pos positive (Nat.two_pow_pos _)) (by decide)
    have halved : 2 * n < (2 * (2 ^ 53 - 1) + 1) * (d * 2 ^ (top + 1)) ↔
        n < d * ((2 * (2 ^ 53 - 1) + 1) * 2 ^ top) := by
      rw [Nat.pow_succ 2 top, show (2 * (2 ^ 53 - 1) + 1) * (d * (2 ^ top * 2)) =
        2 * (d * ((2 * (2 ^ 53 - 1) + 1) * 2 ^ top)) by ring]
      exact Nat.mul_lt_mul_left (by decide)
    rw [← halved, ← tie]
    omega
  · have reached := inside.2.resolve_left (by omega)
    have lower := significand_lower n d shift positive reached
    have powers : 2 ^ (54 + top) ≤ 2 ^ (shift + 52) := Nat.pow_le_pow_right (by decide) (by omega)
    rw [Nat.pow_add 2 54 top] at powers
    have beyond : (2 * (2 ^ 53 - 1) + 1) * 2 ^ top ≤ 2 ^ 54 * 2 ^ top :=
      Nat.mul_le_mul_right _ (by decide)
    have above := Nat.le_trans (Nat.mul_le_mul_left d (Nat.le_trans beyond powers)) reached
    exact iff_of_false (by omega) (Nat.not_lt_of_le above)

-- The first magnitude out of range is `2 ^ 1024`, and the last one in range lies `2 ^ 971` below.

def rangeEnd : Nat := 2 ^ 1024 - 2 ^ 970

theorem nearest_rank_in_range (n d : Nat) (positive : 0 < d) :
    nearestRank n d < ranks ↔ n < d * (rangeEnd * 2 ^ 1074) := by
  have threshold : rangeEnd * 2 ^ 1074 = (2 * (2 ^ 53 - 1) + 1) * 2 ^ 2044 := by decide +kernel
  rw [threshold]
  exact nearest_rank_below_binade n d 2044 positive

end Straightedge.Binary64
