import Mathlib.Algebra.Group.Nat.Even
import Straightedge.Proofs.Place.Steady

namespace Straightedge

inductive Axis where
  | x
  | y
deriving DecidableEq

def Axis.turn : Axis → Nat
  | .x => 0
  | .y => 1

def Coords.along {α : Type} (axis : Axis) (coords : Coords α) : α :=
  match axis with
  | .x => coords.x
  | .y => coords.y

def Coords.exchanged {α : Type} (coords : Coords α) : Coords α := ⟨coords.y, coords.x⟩

-- The pairs are of axes to be compared, one of the first coordinates and one of the second.
def Coords.Agree (pairs : Axis → Axis → Prop) (first second : Coords Number) : Prop :=
  ∀ axis axis', pairs axis axis' → first.along axis = second.along axis'

def Table.Agree (pairs : Axis → Axis → Prop) (table other : Table) : Prop :=
  List.Forall₂ (fun first second => first.1 = second.1 ∧ first.2.Agree pairs second.2) table other

theorem inferred_alone (values : List Number) (offset : Int) (first second : Number)
    (inferred : Inferred values offset first) (again : Inferred values offset second) : first = second :=
  Except.ok.inj (inferred.symm.trans again)

theorem moved_along (axis : Axis) (table : Table) (near coords : Coords Number) (xOffset yOffset : Int)
    (averaged : table.average = .ok near) (xMoved : near.x.add (.integer xOffset) = .ok coords.x)
    (yMoved : near.y.add (.integer yOffset) = .ok coords.y) :
    Inferred (table.map fun entry => entry.2.along axis) ((⟨xOffset, yOffset⟩ : Coords Int).along axis) (coords.along axis) := by
  obtain ⟨x, y⟩ := moved_inferred table near coords xOffset yOffset averaged xMoved yMoved
  cases axis with
  | x => exact x
  | y => exact y

variable {pairs : Axis → Axis → Prop}

theorem values_agree (table other : Table) (agree : table.Agree pairs other) (axis axis' : Axis) (paired : pairs axis axis') :
    (table.map fun entry => entry.2.along axis) = other.map fun entry => entry.2.along axis' := by
  induction agree with
  | nil => rfl
  | cons head _ ih => rw [List.map_cons, List.map_cons, ih, head.2 axis axis' paired]

theorem find_agree (name : String) (table other : Table) (agree : table.Agree pairs other) :
    Option.Rel (Coords.Agree pairs) (table.find? name) (other.find? name) := by
  induction agree with
  | nil => exact .none
  | @cons entry entry' rest rest' head _ ih =>
      obtain ⟨key, coords⟩ := entry
      obtain ⟨key', coords'⟩ := entry'
      obtain ⟨rfl, places⟩ := head
      rw [Table.find?, Table.find?]
      split
      · exact .some places
      · exact ih

theorem record_agree (name : String) (coords coords' : Coords Number) (places : coords.Agree pairs coords')
    (table other : Table) (agree : table.Agree pairs other) :
    Table.Agree pairs (table.record name coords) (other.record name coords') := by
  induction agree with
  | nil => exact .cons ⟨rfl, places⟩ .nil
  | @cons entry entry' rest rest' head tail ih =>
      obtain ⟨key, old⟩ := entry
      obtain ⟨key', old'⟩ := entry'
      obtain ⟨rfl, olds⟩ := head
      rw [Table.record, Table.record]
      split
      · exact .cons ⟨rfl, places⟩ tail
      · exact .cons ⟨rfl, olds⟩ ih

-- The draws for the axes of every pair are the same, point by point.
def Jitter.Agree (pairs : Axis → Axis → Prop) (first second : Jitter) : Prop :=
  ∀ axis axis', pairs axis axis' → ∀ turn, Even turn →
    first.draw (turn + axis.turn) Jitter.bounds = second.draw (turn + axis'.turn) Jitter.bounds

-- Draws come in pairs, so the number of requests is even wherever a point is placed.
structure Memory.Agree (pairs : Axis → Axis → Prop) (memory other : Memory) : Prop where
  table : memory.table.Agree pairs other.table
  requests : other.requests = memory.requests
  even : Even memory.requests.length

structure Occurrence.Agree (pairs : Axis → Axis → Prop) (occurrence other : Occurrence) : Prop where
  name : occurrence.name = other.name
  written : Option.Rel (Coords.Agree pairs) occurrence.written? other.written?

theorem draws_along (axis : Axis) (jitter : Jitter) (turn : Nat) :
    (⟨jitter.draw turn Jitter.bounds, jitter.draw (turn + 1) Jitter.bounds⟩ : Coords Int).along axis =
      jitter.draw (turn + axis.turn) Jitter.bounds := by
  cases axis <;> rfl

section

variable {first second : Jitter} (draws : Jitter.Agree pairs first second)

include draws

theorem settles_agree (memory other : Memory) (agree : memory.Agree pairs other) (occurrence occurrence' : Occurrence)
    (occurrences : occurrence.Agree pairs occurrence') (coords coords' : Coords Number) (requests requests' : List Bounds)
    (settled : memory.Settles first occurrence coords requests)
    (settled' : other.Settles second occurrence' coords' requests') :
    coords.Agree pairs coords' ∧ requests' = requests ∧ Even requests.length := by
  obtain ⟨names, written⟩ := occurrences
  -- Either coordinates are written for both, or for neither and the tables know the name both or neither.
  cases settled with
  | written name =>
      cases settled' with
      | written =>
          cases written with
          | some places => exact ⟨places, agree.requests, agree.even⟩
      | known => cases written
      | inferred => cases written
  | known name _ found =>
      cases settled' with
      | written => cases written
      | known name' _ found' =>
          have places := find_agree name memory.table other.table agree.table
          cases names
          rw [found, found'] at places
          cases places with
          | some places => exact ⟨places, agree.requests, agree.even⟩
      | inferred name' _ _ new =>
          have places := find_agree name memory.table other.table agree.table
          cases names
          rw [found, new] at places
          cases places
  | inferred name near _ new averaged xMoved yMoved =>
      cases settled' with
      | written => cases written
      | known name' _ found =>
          have places := find_agree name memory.table other.table agree.table
          cases names
          rw [new, found] at places
          cases places
      | inferred name' near' _ new' averaged' xMoved' yMoved' =>
          refine ⟨fun axis axis' paired => ?_, by rw [agree.requests], ?_⟩
          · have one := moved_along axis _ _ _ _ _ averaged xMoved yMoved
            have two := moved_along axis' _ _ _ _ _ averaged' xMoved' yMoved'
            rw [draws_along] at one two
            rw [agree.requests, ← values_agree _ _ agree.table axis axis' paired, ← draws axis axis' paired _ agree.even] at two
            exact inferred_alone _ _ _ _ one two
          · rw [List.length_append]
            exact agree.even.add even_two

theorem places_agree (memory other later later' : Memory) (agree : memory.Agree pairs other)
    (occurrence occurrence' : Occurrence) (occurrences : occurrence.Agree pairs occurrence') (point point' : Point Number)
    (placed : Memory.Places first memory occurrence point later)
    (placed' : Memory.Places second other occurrence' point' later') :
    point.name = point'.name ∧ point.coords.Agree pairs point'.coords ∧ later.Agree pairs later' := by
  obtain ⟨named, settled, table⟩ := placed
  obtain ⟨named', settled', table'⟩ := placed'
  obtain ⟨places, requests, even⟩ := settles_agree draws memory other agree occurrence occurrence' occurrences _ _ _ _
    settled settled'
  have names : point.name = point'.name := by rw [named, named', occurrences.name]
  refine ⟨names, places, ?_, requests, even⟩
  rw [table, table', names]
  exact record_agree point'.name point.coords point'.coords places memory.table other.table agree.table

end

end Straightedge
