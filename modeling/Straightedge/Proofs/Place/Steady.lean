import Straightedge.Proofs.Place.Finite

namespace Straightedge

def Coords.Finite (coords : Coords Number) : Prop := coords.x.isFinite = true ∧ coords.y.isFinite = true

def AllFinite (points : List (Point Number)) : Prop := ∀ point ∈ points, point.coords.Finite

-- The sums on both axes of every new occurrence stay in range.
def Steady (jitter : Jitter) (occurrences : List Occurrence) (points : List (Point Number)) : Prop :=
  ∀ i occurrence, occurrences[i]? = some occurrence → occurrence.isNew (occurrences.take i) = true →
    let table := digest (points.take i)
    let draws := 2 * newAmong occurrences i
    SumsInRange 0 (.integer 0) (jitter.draw draws Jitter.bounds) (table.map fun entry => entry.2.x) ∧
      SumsInRange 0 (.integer 0) (jitter.draw (draws + 1) Jitter.bounds) (table.map fun entry => entry.2.y)

structure Run (jitter : Jitter) (occurrences : List Occurrence) (points : List (Point Number)) : Prop where
  names : points.map Point.name = occurrences.map Occurrence.name
  written : ∀ occurrence ∈ occurrences, ∀ coords ∈ occurrence.written?, coords.Finite
  placed : ∀ (i : Nat) occurrence point, occurrences[i]? = some occurrence → points[i]? = some point →
    PlacedBy jitter (2 * newAmong occurrences i) (points.take i) occurrence point.coords

theorem latest_member (name : String) (earlier : List (Point Number)) (coords : Coords Number)
    (found : latest? name earlier = some coords) : ∃ point ∈ earlier, point.coords = coords := by
  obtain ⟨point, first, same⟩ := Option.map_eq_some_iff.mp found
  exact ⟨point, List.mem_reverse.mp (List.mem_of_find?_eq_some first), same⟩

theorem digest_member (earlier : List (Point Number)) (entry : String × Coords Number) (inside : entry ∈ digest earlier) :
    ∃ point ∈ earlier, point.coords = entry.2 := by
  obtain ⟨name, _, found⟩ := List.mem_filterMap.mp inside
  obtain ⟨coords, latest, rfl⟩ := Option.map_eq_some_iff.mp found
  exact latest_member name earlier coords latest

theorem digest_finite (earlier : List (Point Number)) (finite : AllFinite earlier) :
    ∀ entry ∈ digest earlier, entry.2.Finite := by
  intro entry inside
  obtain ⟨point, among, same⟩ := digest_member earlier entry inside
  rw [← same]
  exact finite point among

theorem offset_finite (jitter : Jitter) (bounded : jitter.Bounded) (turn : Nat) :
    (Number.integer (jitter.draw turn Jitter.bounds)).isFinite = true := by
  obtain ⟨low, high⟩ := bounded turn
  exact (Number.integer_finite _).mpr ((Number.integer_convertible _).mp (Number.offset_convertible _ low high))

theorem zero_is_finite : (Number.integer 0).isFinite = true :=
  (Number.integer_finite 0).mpr (by decide +kernel)

-- The first of all points is as far out as the jitter puts it.
theorem first_sum_in_range {jitter : Jitter} (bounded : jitter.Bounded) (turn : Nat) :
    SumsInRange 0 (.integer 0) (jitter.draw turn Jitter.bounds) [] := by
  rw [SumsInRange, Number.InRange, Int.zero_add]
  exact (Number.integer_finite _).mp (offset_finite jitter bounded turn)

theorem inferred_finite_iff (jitter : Jitter) (bounded : jitter.Bounded) (turn : Nat) (values : List Number)
    (result : Number) (finite : ∀ value ∈ values, value.isFinite = true)
    (inferred : Inferred values (jitter.draw turn Jitter.bounds) result) :
    result.isFinite = true ↔ SumsInRange 0 (.integer 0) (jitter.draw turn Jitter.bounds) values :=
  sums_finite_iff 0 (.integer 0) values _ result (.inl rfl) zero_is_finite finite (offset_finite jitter bounded turn)
    inferred

variable {jitter : Jitter} {occurrences : List Occurrence} {points : List (Point Number)}

theorem run_new (run : Run jitter occurrences points) (i : Nat) (name : String)
    (new : latest? name (points.take i) = none) :
    Occurrence.isNew ⟨name, none⟩ (occurrences.take i) = true := by
  rw [latest_none, List.map_take, run.names, ← List.map_take] at new
  rw [is_new, decide_eq_false new]
  rfl

theorem run_old (run : Run jitter occurrences points) (i : Nat) (name : String) (coords : Coords Number)
    (found : latest? name (points.take i) = some coords) :
    Occurrence.isNew ⟨name, none⟩ (occurrences.take i) = false := by
  have old : name ∈ (occurrences.take i).map Occurrence.name := by
    rw [List.map_take, ← run.names, ← List.map_take]
    by_contra absent
    rw [(latest_none name _).mpr absent] at found
    cases found
  rw [is_new, decide_eq_true old]
  rfl

theorem run_length (run : Run jitter occurrences points) : points.length = occurrences.length := by
  simpa using congrArg List.length run.names

theorem point_finite_iff (run : Run jitter occurrences points) (bounded : jitter.Bounded) (i : Nat)
    (occurrence : Occurrence) (point : Point Number) (found : occurrences[i]? = some occurrence)
    (foundPoint : points[i]? = some point) (before : AllFinite (points.take i)) :
    point.coords.Finite ↔ (occurrence.isNew (occurrences.take i) = true →
      SumsInRange 0 (.integer 0) (jitter.draw (2 * newAmong occurrences i) Jitter.bounds)
          ((digest (points.take i)).map fun entry => entry.2.x) ∧
        SumsInRange 0 (.integer 0) (jitter.draw (2 * newAmong occurrences i + 1) Jitter.bounds)
          ((digest (points.take i)).map fun entry => entry.2.y)) := by
  have written := run.written occurrence (List.mem_of_getElem? found)
  have table := digest_finite _ before
  have placed := run.placed i occurrence point found foundPoint
  generalize point.coords = coords at placed
  cases placed with
  | written name =>
      refine iff_of_true (written coords rfl) fun impossible => ?_
      rw [is_new] at impossible
      cases impossible
  | known name _ latest =>
      obtain ⟨other, among, same⟩ := latest_member name _ coords latest
      refine iff_of_true (same ▸ before other among) fun impossible => ?_
      rw [run_old run i name coords latest] at impossible
      cases impossible
  | inferred name _ new x y =>
      have xIff := inferred_finite_iff jitter bounded _ _ _ (List.forall_mem_map.mpr fun entry inside => (table entry inside).1) x
      have yIff := inferred_finite_iff jitter bounded _ _ _ (List.forall_mem_map.mpr fun entry inside => (table entry inside).2) y
      rw [Coords.Finite, xIff, yIff]
      exact ⟨fun inRange _ => inRange, fun inRange => inRange (run_new run i name new)⟩

-- What passes from the points before it to every point holds of all of them.
theorem run_induction (run : Run jitter occurrences points) (P : Coords Number → Prop)
    (step : ∀ (i : Nat) occurrence point, occurrences[i]? = some occurrence → points[i]? = some point →
      (∀ earlier ∈ points.take i, P earlier.coords) → P point.coords) : ∀ point ∈ points, P point.coords := by
  have prefixes : ∀ i, ∀ point ∈ points.take i, P point.coords := by
    intro i
    induction i with
    | zero => exact fun _ none => (List.not_mem_nil none).elim
    | succ i ih =>
        intro point among
        rw [List.take_add_one] at among
        rcases List.mem_append.mp among with earlier | last
        · exact ih point earlier
        · have foundPoint : points[i]? = some point := Option.mem_toList.mp last
          have inside : i < occurrences.length := by
            rw [← run_length run]
            exact (List.getElem?_eq_some_iff.mp foundPoint).1
          exact step i _ point (List.getElem?_eq_getElem inside) foundPoint ih
  have whole := prefixes points.length
  rwa [List.take_length] at whole

theorem run_finite_iff (run : Run jitter occurrences points) (bounded : jitter.Bounded) :
    AllFinite points ↔ Steady jitter occurrences points := by
  constructor
  · intro finite i occurrence found new
    have inside : i < points.length := by
      rw [run_length run]
      exact (List.getElem?_eq_some_iff.mp found).1
    have foundPoint : points[i]? = some points[i] := List.getElem?_eq_getElem inside
    have before : AllFinite (points.take i) := fun point among => finite point (List.mem_of_mem_take among)
    exact (point_finite_iff run bounded i occurrence _ found foundPoint before).mp
      (finite _ (List.mem_of_getElem? foundPoint)) new
  · intro steady
    refine run_induction run Coords.Finite fun i occurrence point found foundPoint before => ?_
    exact (point_finite_iff run bounded i occurrence point found foundPoint before).mpr (steady i occurrence found)

-- Integers are finite in any case: an inferred one is a draw of the jitter.

theorem running_average_integer (count : Nat) (average : Number) (values : List Number) (n : Int)
    (averaged : runningAverage count average values = .ok (.integer n)) : values = [] ∧ average = .integer n := by
  induction values generalizing count average with
  | nil =>
      cases averaged
      exact ⟨rfl, rfl⟩
  | cons value rest ih =>
      rw [runningAverage] at averaged
      obtain ⟨sum, _, later⟩ := (except_bind_ok _ _ _).mp averaged
      obtain ⟨next, divided, later⟩ := (except_bind_ok _ _ _).mp later
      obtain ⟨_, rfl⟩ := ih (count + 1) next later
      cases sum with
      | integer m =>
          rw [Number.dividedBy] at divided
          cases found : Binary64.ofRatio? m (count + 1) with
          | none =>
              rw [found] at divided
              cases divided
          | some real =>
              rw [found] at divided
              cases divided
      | real real => cases divided

theorem inferred_integer (values : List Number) (offset n : Int) (inferred : Inferred values offset (.integer n)) :
    values = [] ∧ n = offset := by
  obtain ⟨average, averaged, added⟩ := (except_bind_ok _ _ _).mp inferred
  obtain ⟨m, k, rfl, same, rfl⟩ := add_integer average _ n added
  obtain ⟨empty, zero⟩ := running_average_integer 0 _ values m averaged
  cases zero
  cases same
  exact ⟨empty, Int.zero_add offset⟩

def Number.IntegerFinite (value : Number) : Prop := ∀ n, value = .integer n → value.isFinite = true

def Coords.IntegersFinite (coords : Coords Number) : Prop := coords.x.IntegerFinite ∧ coords.y.IntegerFinite

theorem inferred_integer_finite (bounded : jitter.Bounded) (turn : Nat) (values : List Number) (result : Number)
    (inferred : Inferred values (jitter.draw turn Jitter.bounds) result) : result.IntegerFinite := by
  rintro n rfl
  rw [(inferred_integer values _ n inferred).2]
  exact offset_finite jitter bounded turn

theorem run_integers_finite (run : Run jitter occurrences points) (bounded : jitter.Bounded) :
    ∀ point ∈ points, point.coords.IntegersFinite := by
  refine run_induction run Coords.IntegersFinite fun i occurrence point found foundPoint before => ?_
  have written := run.written occurrence (List.mem_of_getElem? found)
  have placed := run.placed i occurrence point found foundPoint
  generalize point.coords = coords at placed
  cases placed with
  | written name => exact ⟨fun _ _ => (written coords rfl).1, fun _ _ => (written coords rfl).2⟩
  | known name _ latest =>
      obtain ⟨other, among, same⟩ := latest_member name _ coords latest
      exact same ▸ before other among
  | inferred name _ new x y =>
      exact ⟨inferred_integer_finite bounded _ _ _ x, inferred_integer_finite bounded _ _ _ y⟩

end Straightedge
