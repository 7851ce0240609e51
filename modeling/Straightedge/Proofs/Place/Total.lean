import Straightedge.Proofs.Number.Range
import Straightedge.Proofs.Place.Memory

namespace Straightedge

def Jitter.Bounded (jitter : Jitter) : Prop :=
  ∀ turn, 1 ≤ jitter.draw turn Jitter.bounds ∧ jitter.draw turn Jitter.bounds ≤ 5

namespace Number

def Convertible (value : Number) : Prop := ∃ real, value.toReal = .ok real

theorem real_convertible (real : Binary64) : (Number.real real).Convertible := ⟨real, rfl⟩

theorem to_real_integer (n : Int) (real : Binary64) (found : Binary64.ofInt? n = some real) :
    (Number.integer n).toReal = .ok real := by
  rw [toReal, found, Option.elim_some]

theorem divided_integer (n : Int) (count : Nat) (real : Binary64) (found : Binary64.ofRatio? n count = some real) :
    (Number.integer n).dividedBy count = .ok (.real real) := by
  rw [dividedBy, found, Option.elim_some]

theorem integer_convertible (n : Int) : (Number.integer n).Convertible ↔ n.natAbs < Binary64.rangeEnd := by
  rw [← Binary64.of_int_some, Option.isSome_iff_exists]
  constructor
  · rintro ⟨real, converted⟩
    cases found : Binary64.ofInt? n with
    | some other => exact ⟨other, rfl⟩
    | none =>
        rw [toReal, found, Option.elim_none] at converted
        cases converted
  · rintro ⟨real, found⟩
    exact ⟨real, to_real_integer n real found⟩

theorem add_of_real (a b : Number) (x y : Binary64) (left : a.toReal = .ok x) (right : b.toReal = .ok y)
    (mixed : ∀ m n, a = .integer m → b = .integer n → False) : a.add b = .ok (.real (x.add y)) := by
  rw [add, left, right]
  · rfl
  · exact mixed

theorem add_real_total (real : Binary64) (value : Number) (convertible : value.Convertible) :
    ∃ sum, (Number.real real).add value = .ok (.real sum) := by
  obtain ⟨converted, found⟩ := convertible
  exact ⟨_, add_of_real _ _ real converted rfl found fun _ _ impossible => by cases impossible⟩

theorem divided_one_total (value : Number) (convertible : value.Convertible) :
    ∃ real, value.dividedBy 1 = .ok (.real real) := by
  cases value with
  | integer n =>
      obtain ⟨real, found⟩ := Option.isSome_iff_exists.mp
        ((Binary64.of_int_some n).mpr ((integer_convertible n).mp convertible))
      exact ⟨real, divided_integer n 1 real found⟩
  | real real => exact ⟨real.dividedBy 1, rfl⟩

theorem zero_add_total (value : Number) (convertible : value.Convertible) :
    ∃ sum, (Number.integer 0).add value = .ok sum ∧ sum.Convertible := by
  cases value with
  | integer n =>
      refine ⟨.integer (0 + n), by rw [add], ?_⟩
      rwa [Int.zero_add]
  | real real =>
      have inRange : (0 : Int).natAbs < Binary64.rangeEnd := by decide +kernel
      obtain ⟨zero, found⟩ := (integer_convertible 0).mpr inRange
      exact ⟨_, add_of_real _ _ zero real found rfl fun _ _ _ impossible => (by cases impossible), real_convertible _⟩

theorem offset_convertible (offset : Int) (low : 1 ≤ offset) (high : offset ≤ 5) :
    (Number.integer offset).Convertible := by
  have small : 6 < Binary64.rangeEnd := by decide +kernel
  rw [integer_convertible]
  omega

theorem add_jitter_total (value : Number) (offset : Int) (low : 1 ≤ offset) (high : offset ≤ 5)
    (average : value = .integer 0 ∨ ∃ real, value = .real real) :
    ∃ sum, value.add (.integer offset) = .ok sum ∧ sum.Convertible := by
  have small := offset_convertible offset low high
  rcases average with rfl | ⟨real, rfl⟩
  · exact zero_add_total _ small
  · obtain ⟨sum, added⟩ := add_real_total real _ small
    exact ⟨_, added, real_convertible _⟩

end Number

def Coords.Convertible (coords : Coords Number) : Prop := coords.x.Convertible ∧ coords.y.Convertible

namespace Table

def Convertible (table : Table) : Prop := ∀ entry ∈ table, entry.2.Convertible

theorem average_from_total (count : Nat) (x y : Binary64) (table : Table) (convertible : table.Convertible) :
    ∃ x' y', averageFrom count ⟨.real x, .real y⟩ table = .ok ⟨.real x', .real y'⟩ := by
  induction table generalizing count x y with
  | nil => exact ⟨x, y, rfl⟩
  | cons entry rest ih =>
      obtain ⟨⟨xConvertible, yConvertible⟩, restConvertible⟩ := List.forall_mem_cons.mp convertible
      obtain ⟨xSum, xAdded⟩ := Number.add_real_total x _ xConvertible
      obtain ⟨ySum, yAdded⟩ := Number.add_real_total y _ yConvertible
      obtain ⟨x', y', averaged⟩ := ih (count + 1) (xSum.dividedBy (count + 1)) (ySum.dividedBy (count + 1)) restConvertible
      refine ⟨x', y', ?_⟩
      rw [averageFrom, xAdded, yAdded]
      exact averaged

theorem average_total (table : Table) (convertible : table.Convertible) :
    ∃ near, table.average = .ok near ∧ (near.x = .integer 0 ∨ ∃ real, near.x = .real real) ∧
      (near.y = .integer 0 ∨ ∃ real, near.y = .real real) := by
  cases table with
  | nil => exact ⟨⟨.integer 0, .integer 0⟩, rfl, .inl rfl, .inl rfl⟩
  | cons entry rest =>
      obtain ⟨⟨xConvertible, yConvertible⟩, restConvertible⟩ := List.forall_mem_cons.mp convertible
      obtain ⟨xSum, xAdded, xKept⟩ := Number.zero_add_total _ xConvertible
      obtain ⟨ySum, yAdded, yKept⟩ := Number.zero_add_total _ yConvertible
      obtain ⟨x, xDivided⟩ := Number.divided_one_total xSum xKept
      obtain ⟨y, yDivided⟩ := Number.divided_one_total ySum yKept
      obtain ⟨x', y', averaged⟩ := average_from_total 1 x y rest restConvertible
      refine ⟨⟨.real x', .real y'⟩, ?_, .inr ⟨x', rfl⟩, .inr ⟨y', rfl⟩⟩
      rw [average, averageFrom, xAdded, yAdded, Nat.zero_add]
      simp only [bind, Except.bind, xDivided, yDivided]
      exact averaged

theorem find_convertible (table : Table) (name : String) (coords : Coords Number) (convertible : table.Convertible)
    (found : table.find? name = some coords) : coords.Convertible := by
  induction table with
  | nil => cases found
  | cons entry rest ih =>
      obtain ⟨key, old⟩ := entry
      obtain ⟨oldConvertible, restConvertible⟩ := List.forall_mem_cons.mp convertible
      rw [find?] at found
      split at found
      · cases found
        exact oldConvertible
      · exact ih restConvertible found

theorem record_convertible (table : Table) (name : String) (coords : Coords Number) (convertible : table.Convertible)
    (new : coords.Convertible) : (table.record name coords).Convertible := by
  induction table with
  | nil => exact List.forall_mem_cons.mpr ⟨new, fun _ none => (List.not_mem_nil none).elim⟩
  | cons entry rest ih =>
      obtain ⟨key, old⟩ := entry
      obtain ⟨oldConvertible, restConvertible⟩ := List.forall_mem_cons.mp convertible
      rw [record]
      split
      · exact List.forall_mem_cons.mpr ⟨new, restConvertible⟩
      · exact List.forall_mem_cons.mpr ⟨oldConvertible, ih restConvertible⟩

end Table

namespace Memory

variable {jitter : Jitter}

theorem places_total (bounded : jitter.Bounded) (memory : Memory) (occurrence : Occurrence)
    (convertible : memory.table.Convertible) (written : ∀ coords ∈ occurrence.written?, coords.Convertible) :
    ∃ point later, Places jitter memory occurrence point later ∧ later.table.Convertible := by
  have settled : ∃ coords requests, Settles jitter memory occurrence coords requests ∧ coords.Convertible := by
    obtain ⟨name, written?⟩ := occurrence
    cases written? with
    | some coords => exact ⟨coords, _, .written name coords, written coords rfl⟩
    | none =>
        cases found : memory.table.find? name with
        | some coords =>
            exact ⟨coords, _, .known name coords found, Table.find_convertible _ _ _ convertible found⟩
        | none =>
            obtain ⟨near, averaged, xAverage, yAverage⟩ := Table.average_total memory.table convertible
            obtain ⟨xLow, xHigh⟩ := bounded memory.requests.length
            obtain ⟨yLow, yHigh⟩ := bounded (memory.requests.length + 1)
            obtain ⟨x, xMoved, xKept⟩ := Number.add_jitter_total _ _ xLow xHigh xAverage
            obtain ⟨y, yMoved, yKept⟩ := Number.add_jitter_total _ _ yLow yHigh yAverage
            exact ⟨⟨x, y⟩, _, .inferred name near ⟨x, y⟩ found averaged xMoved yMoved, xKept, yKept⟩
  obtain ⟨coords, requests, settled, kept⟩ := settled
  exact ⟨⟨occurrence.name, coords⟩, ⟨memory.table.record occurrence.name coords, requests⟩, ⟨rfl, settled, rfl⟩,
    Table.record_convertible _ _ _ convertible kept⟩

theorem places_all_total (bounded : jitter.Bounded) (memory : Memory) (occurrences : List Occurrence)
    (convertible : memory.table.Convertible)
    (written : ∀ occurrence ∈ occurrences, ∀ coords ∈ occurrence.written?, coords.Convertible) :
    ∃ points later, PlacesAll jitter memory occurrences points later := by
  induction occurrences generalizing memory with
  | nil => exact ⟨[], memory, .nil memory⟩
  | cons occurrence rest ih =>
      obtain ⟨firstWritten, restWritten⟩ := List.forall_mem_cons.mp written
      obtain ⟨point, between, placed, kept⟩ := places_total bounded memory occurrence convertible firstWritten
      obtain ⟨points, later, placedRest⟩ := ih between kept restWritten
      exact ⟨point :: points, later, .cons _ _ _ _ _ _ _ placed placedRest⟩

end Memory

end Straightedge
