import Straightedge.Vocabulary

namespace Straightedge

structure Coords (α : Type) where
  x : α
  y : α
deriving DecidableEq

structure Point (α : Type) where
  name : String
  coords : Coords α
deriving DecidableEq

inductive Extent where
  | line
  | segment
deriving DecidableEq

structure Line (α : Type) where
  extent : Extent
  start : Point α
  stop : Point α
deriving DecidableEq

inductive Figure (α : Type) where
  | point (point : Point α)
  | line (line : Line α)
  | perpendicular (base : Line α) (apex : Point α)
  | triangle (first second third : Point α)
deriving DecidableEq

structure Command (α : Type) where
  operator : String
  object : Figure α
deriving DecidableEq

abbrev Task (α : Type) := List (Command α)

def Extent.keyword : Extent → Keyword
  | .line => .line
  | .segment => .segment

def Extent.kind : Extent → String
  | .line => "line"
  | .segment => "segment"

def Figure.kind {α : Type} : Figure α → String
  | .point _ => "point"
  | .line path => path.extent.kind
  | .perpendicular _ _ => "perpendicular"
  | .triangle _ _ _ => "triangle"

-- Equality up to a relation on coordinates.

variable {α : Type} (same : α → α → Bool)

def Coords.equal (a b : Coords α) : Bool := same a.x b.x && same a.y b.y

def Point.equal (a b : Point α) : Bool := a.name == b.name && a.coords.equal same b.coords

def Line.equal (a b : Line α) : Bool :=
  a.extent == b.extent && a.start.equal same b.start && a.stop.equal same b.stop

def Figure.equal : Figure α → Figure α → Bool
  | .point a, .point b => a.equal same b
  | .line a, .line b => a.equal same b
  | .perpendicular base apex, .perpendicular base' apex' =>
      base.equal same base' && apex.equal same apex'
  | .triangle a b c, .triangle a' b' c' => a.equal same a' && b.equal same b' && c.equal same c'
  | _, _ => false

def Command.equal (a b : Command α) : Bool :=
  a.operator == b.operator && a.object.equal same b.object

def Task.equal : Task α → Task α → Bool
  | [], [] => true
  | a :: rest, b :: rest' => a.equal same b && Task.equal rest rest'
  | _, _ => false

end Straightedge
