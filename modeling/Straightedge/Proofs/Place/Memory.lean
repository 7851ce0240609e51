import Straightedge.Parse.Session

namespace Straightedge

structure Occurrence where
  name : String
  written? : Option (Coords Number)
deriving DecidableEq

structure Memory where
  table : Table
  requests : List Bounds

namespace Memory

def empty : Memory := ⟨[], []⟩

inductive Settles (jitter : Jitter) (memory : Memory) : Occurrence → Coords Number → List Bounds → Prop where
  | written (name : String) (coords : Coords Number) :
      Settles jitter memory ⟨name, some coords⟩ coords memory.requests
  | known (name : String) (coords : Coords Number) (found : memory.table.find? name = some coords) :
      Settles jitter memory ⟨name, none⟩ coords memory.requests
  | inferred (name : String) (near coords : Coords Number) (new : memory.table.find? name = none)
      (averaged : memory.table.average = .ok near)
      (xMoved : near.x.add (.integer (jitter.draw memory.requests.length Jitter.bounds)) = .ok coords.x)
      (yMoved : near.y.add (.integer (jitter.draw (memory.requests.length + 1) Jitter.bounds)) = .ok coords.y) :
      Settles jitter memory ⟨name, none⟩ coords (memory.requests ++ [Jitter.bounds, Jitter.bounds])

-- A point is recorded in any case.
def Places (jitter : Jitter) (memory : Memory) (occurrence : Occurrence) (point : Point Number)
    (later : Memory) : Prop :=
  point.name = occurrence.name ∧ Settles jitter memory occurrence point.coords later.requests ∧
    later.table = memory.table.record point.name point.coords

inductive PlacesAll (jitter : Jitter) : Memory → List Occurrence → List (Point Number) → Memory → Prop where
  | nil (memory : Memory) : PlacesAll jitter memory [] [] memory
  | cons (memory between later : Memory) (occurrence : Occurrence) (point : Point Number)
      (occurrences : List Occurrence) (points : List (Point Number))
      (first : Places jitter memory occurrence point between)
      (rest : PlacesAll jitter between occurrences points later) :
      PlacesAll jitter memory (occurrence :: occurrences) (point :: points) later

variable {jitter : Jitter}

theorem settles_written (memory : Memory) (name : String) (written coords : Coords Number) (requests : List Bounds)
    (settled : Settles jitter memory ⟨name, some written⟩ coords requests) :
    coords = written ∧ requests = memory.requests := by
  cases settled
  exact ⟨rfl, rfl⟩

theorem places_all_cons (memory later : Memory) (occurrence : Occurrence) (point : Point Number)
    (occurrences : List Occurrence) (points : List (Point Number)) :
    PlacesAll jitter memory (occurrence :: occurrences) (point :: points) later ↔
      ∃ between, Places jitter memory occurrence point between ∧
        PlacesAll jitter between occurrences points later := by
  constructor
  · intro placed
    cases placed with
    | cons _ between _ _ _ _ _ first rest => exact ⟨between, first, rest⟩
  · rintro ⟨between, first, rest⟩
    exact .cons memory between later occurrence point occurrences points first rest

theorem places_all_nil (memory later : Memory) : PlacesAll jitter memory [] [] later ↔ later = memory := by
  constructor
  · intro placed
    cases placed
    rfl
  · rintro rfl
    exact .nil _

theorem places_all_append (memory later : Memory) (before after : List Occurrence)
    (points points' : List (Point Number)) (aligned : points.length = before.length) :
    PlacesAll jitter memory (before ++ after) (points ++ points') later ↔
      ∃ between, PlacesAll jitter memory before points between ∧ PlacesAll jitter between after points' later := by
  induction before generalizing memory points with
  | nil =>
      rw [List.length_eq_zero_iff.mp aligned]
      simp [places_all_nil]
  | cons occurrence before ih =>
      obtain ⟨point, rest, rfl⟩ := List.exists_cons_of_length_eq_add_one aligned
      have shorter : rest.length = before.length := by simpa using aligned
      simp only [List.cons_append, places_all_cons, ih _ _ shorter]
      constructor
      · rintro ⟨first, head, between, tail, last⟩
        exact ⟨between, ⟨first, head, tail⟩, last⟩
      · rintro ⟨between, ⟨first, head, tail⟩, last⟩
        exact ⟨first, head, between, tail, last⟩

end Memory

end Straightedge
