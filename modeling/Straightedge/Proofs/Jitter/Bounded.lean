import Straightedge.Jitter.Twister
import Straightedge.Proofs.Place.Total

namespace Straightedge

namespace Twister

theorem below_lt (width tries : Nat) (positive : 0 < width) (twister : Twister) :
    (below width tries twister).1 < width := by
  induction tries generalizing twister with
  | zero => exact positive
  | succ tries ih =>
      rw [below]
      dsimp only
      split
      · rename_i inside
        exact inside
      · exact ih _

theorem draw_within (bounds : Bounds) (ordered : bounds.low ≤ bounds.high) (turn : Nat) (twister : Twister) :
    bounds.low ≤ draw bounds turn twister ∧ draw bounds turn twister ≤ bounds.high := by
  induction turn generalizing twister with
  | zero =>
      have inside := below_lt (bounds.high - bounds.low + 1).toNat 4096 (by omega) twister
      rw [draw]
      dsimp only
      omega
  | succ earlier ih => exact ih _

end Twister

theorem seeded_bounded (seed : Int) : (Jitter.seeded seed).Bounded :=
  fun turn => Twister.draw_within Jitter.bounds (by decide) turn _

theorem cycle_bounded (values : List Int) (inside : ∀ value ∈ values, 1 ≤ value ∧ value ≤ 5) :
    (Jitter.cycle values).Bounded := by
  intro turn
  rw [Jitter.cycle]
  dsimp only
  cases found : values[turn % values.length]? with
  | none => decide
  | some value => exact inside value (List.mem_of_getElem? found)

end Straightedge
