import Straightedge.Figure
import Straightedge.Number.Basic

namespace Straightedge

abbrev Table := List (String × Coords Number)

namespace Table

def find? (name : String) : Table → Option (Coords Number)
  | [] => none
  | (key, coords) :: rest => if key = name then some coords else find? name rest

-- A name that is recorded again keeps its place.
def record (name : String) (coords : Coords Number) : Table → Table
  | [] => [(name, coords)]
  | (key, old) :: rest =>
      if key = name then (key, coords) :: rest else (key, old) :: record name coords rest

def names (table : Table) : List String := table.map Prod.fst

-- The order of the names does not matter.
def equal (a b : Table) : Bool :=
  let within (a b : Table) := a.all fun (name, coords) =>
    (find? name b).any fun other => coords.equal Number.equal other
  within a b && within b a

-- The result depends on the order of the points and is not their mean.
def averageFrom (count : Nat) (average : Coords Number) :
    Table → Except Overflow (Coords Number)
  | [] => .ok average
  | (_, coords) :: rest => do
      let x ← (← average.x.add coords.x).dividedBy (count + 1)
      let y ← (← average.y.add coords.y).dividedBy (count + 1)
      averageFrom (count + 1) ⟨x, y⟩ rest

def average (table : Table) : Except Overflow (Coords Number) :=
  averageFrom 0 ⟨.integer 0, .integer 0⟩ table

@[simp] theorem find_record_same (name : String) (coords : Coords Number) (table : Table) :
    (record name coords table).find? name = some coords := by
  induction table with
  | nil => simp [record, find?]
  | cons entry rest ih =>
    obtain ⟨key, old⟩ := entry
    by_cases same : key = name <;> simp [record, find?, same, ih]

theorem find_record_other (name other : String) (coords : Coords Number) (table : Table)
    (different : other ≠ name) : (record name coords table).find? other = table.find? other := by
  induction table with
  | nil => simp [record, find?, Ne.symm different]
  | cons entry rest ih =>
    obtain ⟨key, old⟩ := entry
    by_cases same : key = name
    · subst same
      simp [record, find?, Ne.symm different]
    · simp [record, find?, same, ih]

end Table

end Straightedge
