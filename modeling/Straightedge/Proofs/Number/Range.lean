import Straightedge.Proofs.Number.Rounding

namespace Straightedge

namespace Binary64

theorem of_rank_finite (negative : Bool) (rank : Nat) : (ofRank negative rank).isFinite = true ↔ rank < ranks := by
  unfold ofRank
  split
  · rename_i inside
    exact iff_of_true rfl inside
  · rename_i outside
    exact iff_of_false Bool.false_ne_true outside

theorem nearest_finite (negative : Bool) (n d : Nat) (positive : 0 < d) :
    (nearest negative n d).isFinite = true ↔ n < d * (rangeEnd * 2 ^ 1074) :=
  (of_rank_finite negative _).trans (nearest_rank_in_range n d positive)

theorem of_ratio_some (n : Int) (count : Nat) (positive : 0 < count) :
    (ofRatio? n count).isSome = true ↔ n.natAbs < count * rangeEnd := by
  have scaled : n.natAbs * 2 ^ 1074 < count * (rangeEnd * 2 ^ 1074) ↔ n.natAbs < count * rangeEnd := by
    rw [← Nat.mul_assoc]
    exact Nat.mul_lt_mul_right (Nat.two_pow_pos 1074)
  rw [← scaled, ← nearest_finite (decide (n < 0)) _ count positive]
  unfold ofRatio?
  dsimp only
  split
  · rename_i finite
    exact iff_of_true rfl finite
  · rename_i infinite
    exact iff_of_false Bool.false_ne_true infinite

theorem of_int_some (n : Int) : (ofInt? n).isSome = true ↔ n.natAbs < rangeEnd := by
  have counted := of_ratio_some n 1 (by decide)
  rwa [Nat.one_mul] at counted

theorem divided_finite (value : Binary64) (count : Nat) (positive : 0 < count) :
    (value.dividedBy count).isFinite = value.isFinite := by
  cases value with
  | finite negative rank =>
      have smaller : nearestRank (units rank) count ≤ nearestRank (units rank) 1 :=
        nearest_rank_mono _ _ _ _ positive (by decide) (by
          rw [Nat.mul_one]
          exact Nat.le_mul_of_pos_right _ positive)
      rw [nearest_rank_units] at smaller
      exact (of_rank_finite negative _).mpr (Nat.lt_of_le_of_lt smaller rank.isLt)
  | infinite negative => rfl
  | nan => rfl

end Binary64

namespace Number

theorem integer_finite (n : Int) : (Number.integer n).isFinite = true ↔ n.natAbs < Binary64.rangeEnd :=
  Binary64.of_int_some n

end Number

end Straightedge
