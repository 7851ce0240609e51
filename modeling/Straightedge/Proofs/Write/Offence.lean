import Straightedge.Proofs.Write.Description
import Straightedge.Proofs.Write.RoundTrip

namespace Straightedge

def Point.item (point : Point Scalar) : Item := .point point.name (.coords point.coords)

def Line.item (path : Line Scalar) : Item := .line path.extent path.start.item path.stop.item

def Figure.item : Figure Scalar → Item
  | .point place => place.item
  | .line path => path.item
  | .perpendicular base apex => .perpendicular base.item apex.item
  | .triangle first second third => .triangle first.item second.item third.item

def Coords.scalars (coords : Coords Scalar) : List Scalar := [coords.x, coords.y]

def Line.scalars (path : Line Scalar) : List Scalar := path.start.coords.scalars ++ path.stop.coords.scalars

-- The coordinates in the order of the text, in which the apex of a perpendicular precedes its base.
def Figure.scalars : Figure Scalar → List Scalar
  | .point place => place.coords.scalars
  | .line path => path.scalars
  | .perpendicular base apex => apex.coords.scalars ++ base.scalars
  | .triangle first second third => first.coords.scalars ++ (second.coords.scalars ++ third.coords.scalars)

def Item.isFigure : Item → Bool
  | .point _ _ => true
  | .line _ _ _ => true
  | .perpendicular _ _ => true
  | .triangle _ _ _ => true
  | _ => false

-- What a command holds where its figure should be. No integer in a figure is too long to be written.
inductive Content where
  | whole (figure : Figure Scalar) (short : ∀ value ∈ figure.scalars, value.Short)
  | stray (item : Item) (noFigure : item.isFigure = false)

def Content.item : Content → Item
  | .whole figure _ => figure.item
  | .stray item _ => item

structure Entry where
  operator : String
  content : Content

def Entry.item (entry : Entry) : Item := .command entry.operator entry.content.item

def Scalar.offence? : Scalar → Option WriteError
  | .number (.integer _) => none
  | .number (.real value) => if value.isFinite then none else some (.notFinite value)
  | other => some (.describing .notNumber other.describe)

inductive Scalar.Plain : Scalar → Prop where
  | integer (n : Int) : Plain (.number (.integer n))
  | real (value : Binary64) (finite : value.isFinite = true) : Plain (.number (.real value))

def firstOffence? (scalars : List Scalar) : Option WriteError := scalars.findSome? Scalar.offence?

def Content.offence? : Content → Option WriteError
  | .whole figure _ => firstOffence? figure.scalars
  | .stray item _ => some (.describing .notFigure item.describe)

def Content.Plain : Content → Prop
  | .whole figure _ => ∀ value ∈ figure.scalars, value.Plain
  | .stray _ _ => False

def Entry.offence? (entry : Entry) : Option WriteError := entry.content.offence?

end Straightedge
