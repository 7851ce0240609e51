import Straightedge.Proofs.Place.History
import Straightedge.Proofs.Place.Total

namespace Straightedge

namespace Binary64

def signed : Binary64 → Int
  | .finite negative rank => signedUnits negative rank
  | _ => 0

theorem zero_finite (negative : Bool) : (zero negative).isFinite = true :=
  (of_rank_finite negative 0).mpr (by decide)

theorem add_finite_iff (x y : Binary64) (left : x.isFinite = true) (right : y.isFinite = true) :
    (x.add y).isFinite = true ↔ (x.signed + y.signed).natAbs < rangeEnd * 2 ^ 1074 := by
  obtain ⟨s, a⟩ | _ | _ := x
  · obtain ⟨t, b⟩ | _ | _ := y
    · rw [add, signed, signed]
      generalize signedUnits s a + signedUnits t b = sum
      have positive : 0 < rangeEnd * 2 ^ 1074 := Nat.mul_pos (by decide +kernel) (Nat.two_pow_pos 1074)
      by_cases none : sum = 0
      · rw [if_pos none, none]
        exact iff_of_true (zero_finite _) positive
      · rw [if_neg none, nearest_finite _ _ 1 (by decide), Nat.one_mul]
    · cases right
    · cases right
  · cases left
  · cases left

theorem add_not_finite (x y : Binary64) (beyond : x.isFinite = false) : (x.add y).isFinite = false := by
  obtain ⟨s, a⟩ | s | _ := x
  · cases beyond
  · obtain ⟨t, b⟩ | t | _ := y
    · rfl
    · rw [add]
      split <;> rfl
    · rfl
  · rfl

theorem of_ratio_finite (n : Int) (count : Nat) (value : Binary64) (found : ofRatio? n count = some value) :
    value.isFinite = true := by
  unfold ofRatio? at found
  dsimp only at found
  split at found
  · rename_i finite
    cases found
    exact finite
  · cases found

end Binary64

namespace Number

theorem finite_convertible (value : Number) (finite : value.isFinite = true) : value.Convertible := by
  cases value with
  | integer n => exact (integer_convertible n).mpr ((integer_finite n).mp finite)
  | real real => exact real_convertible real

theorem to_real_finite (value : Number) (real : Binary64) (finite : value.isFinite = true)
    (converted : value.toReal = .ok real) : real.isFinite = true := by
  cases value with
  | integer n =>
      obtain ⟨other, found⟩ := Option.isSome_iff_exists.mp finite
      rw [to_real_integer n other found] at converted
      cases converted
      exact Binary64.of_ratio_finite n 1 _ found
  | real other =>
      cases converted
      exact finite

-- Whether the exact sum of two numbers, which are added as integers or as reals, lies below the point
-- from which sums round to what is not finite.
def InRange : Number → Number → Prop
  | .integer m, .integer n => (m + n).natAbs < Binary64.rangeEnd
  | a, b => ∀ x y, a.toReal = .ok x → b.toReal = .ok y → (x.signed + y.signed).natAbs < Binary64.rangeEnd * 2 ^ 1074

theorem in_range_mixed (a b : Number) (x y : Binary64) (left : a.toReal = .ok x) (right : b.toReal = .ok y)
    (mixed : ∀ m n, a = .integer m → b = .integer n → False) :
    InRange a b ↔ (x.signed + y.signed).natAbs < Binary64.rangeEnd * 2 ^ 1074 := by
  rw [InRange]
  · constructor
    · exact fun inRange => inRange x y left right
    · intro inRange x' y' left' right'
      rw [left] at left'
      rw [right] at right'
      cases left'
      cases right'
      exact inRange
  · exact mixed

theorem sum_finite_iff (a b sum : Number) (left : a.isFinite = true) (right : b.isFinite = true)
    (added : a.add b = .ok sum) : sum.isFinite = true ↔ InRange a b := by
  by_cases both : ∃ m n, a = .integer m ∧ b = .integer n
  · obtain ⟨m, n, rfl, rfl⟩ := both
    rw [add] at added
    cases added
    rw [integer_finite, InRange]
  · have mixed : ∀ m n, a = .integer m → b = .integer n → False := fun m n first second => both ⟨m, n, first, second⟩
    obtain ⟨x, leftReal⟩ := finite_convertible a left
    obtain ⟨y, rightReal⟩ := finite_convertible b right
    rw [add_of_real a b x y leftReal rightReal mixed] at added
    cases added
    rw [in_range_mixed a b x y leftReal rightReal mixed]
    exact Binary64.add_finite_iff x y (to_real_finite a x left leftReal) (to_real_finite b y right rightReal)

theorem divided_finite (value quotient : Number) (count : Nat) (finite : value.isFinite = true)
    (divided : value.dividedBy (count + 1) = .ok quotient) : quotient.isFinite = true ∧ ∃ real, quotient = .real real := by
  cases value with
  | integer n =>
      cases found : Binary64.ofRatio? n (count + 1) with
      | none =>
          rw [dividedBy, found, Option.elim_none] at divided
          cases divided
      | some real =>
          rw [divided_integer n (count + 1) real found] at divided
          cases divided
          exact ⟨Binary64.of_ratio_finite n _ real found, real, rfl⟩
  | real real =>
      rw [dividedBy] at divided
      cases divided
      exact ⟨(Binary64.divided_finite real (count + 1) (Nat.succ_pos count)).trans finite, _, rfl⟩

end Number

def SumsInRange (count : Nat) (average : Number) (offset : Int) : List Number → Prop
  | [] => average.InRange (.integer offset)
  | value :: rest =>
      average.InRange value ∧
        ∀ next, (do (← average.add value).dividedBy (count + 1)) = .ok next → SumsInRange (count + 1) next offset rest

theorem sums_nil (count : Nat) (average : Number) (offset : Int) (result : Number) :
    (do (← runningAverage count average []).add (.integer offset)) = .ok result ↔
      average.add (.integer offset) = .ok result := Iff.rfl

theorem sums_cons (count : Nat) (average value : Number) (rest : List Number) (offset : Int) (result : Number) :
    (do (← runningAverage count average (value :: rest)).add (.integer offset)) = .ok result ↔
      ∃ sum next, average.add value = .ok sum ∧ sum.dividedBy (count + 1) = .ok next ∧
        (do (← runningAverage (count + 1) next rest).add (.integer offset)) = .ok result := by
  simp only [runningAverage, except_bind_ok]
  constructor
  · rintro ⟨last, ⟨sum, added, next, divided, averaged⟩, moved⟩
    exact ⟨sum, next, added, divided, last, averaged, moved⟩
  · rintro ⟨sum, next, added, divided, last, averaged, moved⟩
    exact ⟨last, ⟨sum, added, next, divided, averaged⟩, moved⟩

theorem add_beyond (x : Binary64) (value sum : Number) (beyond : x.isFinite = false)
    (added : (Number.real x).add value = .ok sum) : ∃ y, sum = .real y ∧ y.isFinite = false := by
  have mixed : ∀ m n, Number.real x = .integer m → value = .integer n → False := fun _ _ impossible => by cases impossible
  cases converted : value.toReal with
  | error cause =>
      rw [Number.add, converted] at added
      · cases added
      · exact mixed
  | ok y =>
      rw [Number.add_of_real _ _ x y rfl converted mixed] at added
      cases added
      exact ⟨_, rfl, Binary64.add_not_finite x y beyond⟩

theorem beyond_stays (count : Nat) (average : Binary64) (values : List Number) (offset : Int) (result : Number)
    (beyond : average.isFinite = false)
    (done : (do (← runningAverage count (.real average) values).add (.integer offset)) = .ok result) :
    result.isFinite = false := by
  induction values generalizing count average with
  | nil =>
      obtain ⟨y, rfl, last⟩ := add_beyond average _ result beyond ((sums_nil _ _ _ _).mp done)
      exact last
  | cons value rest ih =>
      obtain ⟨sum, next, added, divided, later⟩ := (sums_cons _ _ _ _ _ _).mp done
      obtain ⟨y, rfl, sumBeyond⟩ := add_beyond average value sum beyond added
      cases divided
      exact ih (count + 1) (y.dividedBy (count + 1))
        ((Binary64.divided_finite y (count + 1) (Nat.succ_pos count)).trans sumBeyond) later

theorem add_integer (a b : Number) (n : Int) (added : a.add b = .ok (.integer n)) :
    ∃ m k, a = .integer m ∧ b = .integer k ∧ n = m + k := by
  by_cases both : ∃ m k, a = .integer m ∧ b = .integer k
  · obtain ⟨m, k, rfl, rfl⟩ := both
    cases added
    exact ⟨m, k, rfl, rfl, rfl⟩
  · rw [Number.add] at added
    · obtain ⟨x, _, rest⟩ := (except_bind_ok _ _ _).mp added
      obtain ⟨y, _, impossible⟩ := (except_bind_ok _ _ _).mp rest
      cases impossible
    · exact fun m k first second => both ⟨m, k, first, second⟩

-- A sum of integers occurs only at the start, where it is in range.
theorem start_in_range (average value sum : Number) (start : average = .integer 0 ∨ ∃ real, average = .real real)
    (finite : value.isFinite = true) (added : average.add value = .ok sum) (beyond : sum.isFinite = false) :
    ∃ real, sum = .real real := by
  cases sum with
  | real real => exact ⟨real, rfl⟩
  | integer n =>
      obtain ⟨m, k, rfl, rfl, rfl⟩ := add_integer average value n added
      rcases start with same | ⟨_, same⟩
      · cases same
        rw [Int.zero_add, finite] at beyond
        cases beyond
      · cases same

theorem sums_finite_iff (count : Nat) (average : Number) (values : List Number) (offset : Int) (result : Number)
    (start : average = .integer 0 ∨ ∃ real, average = .real real) (finite : average.isFinite = true)
    (allFinite : ∀ value ∈ values, value.isFinite = true) (small : (Number.integer offset).isFinite = true)
    (done : (do (← runningAverage count average values).add (.integer offset)) = .ok result) :
    result.isFinite = true ↔ SumsInRange count average offset values := by
  induction values generalizing count average with
  | nil => rw [SumsInRange, Number.sum_finite_iff _ _ _ finite small ((sums_nil _ _ _ _).mp done)]
  | cons value rest ih =>
      obtain ⟨valueFinite, restFinite⟩ := List.forall_mem_cons.mp allFinite
      obtain ⟨sum, next, added, divided, later⟩ := (sums_cons _ _ _ _ _ _).mp done
      have inRange := Number.sum_finite_iff average value sum finite valueFinite added
      have step : (do (← average.add value).dividedBy (count + 1)) = .ok next :=
        (except_bind_ok _ _ _).mpr ⟨sum, added, divided⟩
      cases sumFinite : sum.isFinite with
      | true =>
          obtain ⟨nextFinite, nextReal⟩ := Number.divided_finite sum next count sumFinite divided
          rw [ih (count + 1) next (.inr nextReal) nextFinite restFinite later, SumsInRange]
          constructor
          · intro rest
            refine ⟨inRange.mp sumFinite, fun other otherStep => ?_⟩
            rw [step] at otherStep
            cases otherStep
            exact rest
          · rintro ⟨_, rest⟩
            exact rest next step
      | false =>
          obtain ⟨real, rfl⟩ := start_in_range average value sum start valueFinite added sumFinite
          cases divided
          have result := beyond_stays (count + 1) (real.dividedBy (count + 1)) rest offset result
            ((Binary64.divided_finite real (count + 1) (Nat.succ_pos count)).trans sumFinite) later
          refine iff_of_false (by rw [result]; exact Bool.false_ne_true) ?_
          rintro ⟨within, _⟩
          rw [inRange.mpr within] at sumFinite
          cases sumFinite

end Straightedge
