import Straightedge.Figure
import Straightedge.Number.Basic
import Straightedge.Text.Quoted
import Straightedge.Token.Basic

namespace Straightedge

inductive Scalar where
  | number (value : Number)
  | text (value : String)
  | truth (value : Bool)
  | absent
deriving DecidableEq

inductive Item where
  | scalar (value : Scalar)
  | coords (coords : Coords Scalar)
  | point (name : String) (coords : Item)
  | line (extent : Extent) (start stop : Item)
  | perpendicular (base apex : Item)
  | triangle (first second third : Item)
  | command (operator : String) (object : Item)
  | task (commands : List Item)
  | token (token : Token)

namespace Scalar

def number? : Scalar → Option Number
  | .number value => some value
  | .truth value => some (.integer (if value then 1 else 0))
  | _ => none

def equal : Scalar → Scalar → Bool
  | .text a, .text b => a == b
  | .absent, .absent => true
  | a, b =>
      match a.number?, b.number? with
      | some a, some b => a.equal b
      | _, _ => false

def kind : Scalar → String
  | .number (.integer _) => "int"
  | .number (.real _) => "float"
  | .text _ => "str"
  | .truth _ => "bool"
  | .absent => "NoneType"

-- An integer that is too long to be written spoils the description of all it is part of.
def describe : Scalar → Except Numeral.Overlong String
  | .number value => value.written Layout.short
  | .text value => .ok (Text.quoted value)
  | .truth value => .ok (if value then "True" else "False")
  | .absent => .ok "None"

end Scalar

def Token.describe (token : Token) : Except Numeral.Overlong String := do
  let offset ← Numeral.written token.offset
  return "Token(" ++ token.category.name ++ ", " ++ Text.quoted token.value ++ ", " ++
    String.ofList offset ++ ")"

namespace Item

def kind : Item → String
  | .scalar value => value.kind
  | .coords _ => "CoordsNode"
  | .point _ _ => "PointNode"
  | .line .line _ _ => "LineNode"
  | .line .segment _ _ => "LineSegmentNode"
  | .perpendicular _ _ => "PerpendicularNode"
  | .triangle _ _ _ => "TriangleNode"
  | .command _ _ => "CommandNode"
  | .task _ => "TaskNode"
  | .token _ => "Token"

def describeParts (kind : String) (parts : List (String × String)) : String :=
  kind ++ "(" ++ ", ".intercalate (parts.map fun (name, text) => name ++ "=" ++ text) ++ ")"

mutual

def describe (item : Item) : Except Numeral.Overlong String :=
  match item with
  | .scalar value => value.describe
  | .coords pair => do
      return describeParts item.kind [("x", ← pair.x.describe), ("y", ← pair.y.describe)]
  | .point name place => do
      return describeParts item.kind [("identifier", Text.quoted name), ("coords", ← describe place)]
  | .line _ start stop => do
      return describeParts item.kind [("point_from", ← describe start), ("point_to", ← describe stop)]
  | .perpendicular base apex => do
      return describeParts item.kind [("base", ← describe base), ("from_point", ← describe apex)]
  | .triangle first second third => do
      return describeParts item.kind
        [("p1", ← describe first), ("p2", ← describe second), ("p3", ← describe third)]
  | .command operator object => do
      return describeParts item.kind
        [("operator", Text.quoted operator), ("object", ← describe object)]
  | .task commands => do
      return describeParts item.kind
        [("commands", "[" ++ ", ".intercalate (← describeAll commands) ++ "]")]
  | .token value => value.describe

def describeAll : List Item → Except Numeral.Overlong (List String)
  | [] => .ok []
  | item :: rest => do return (← describe item) :: (← describeAll rest)

end

mutual

def equal : Item → Item → Bool
  | .scalar a, .scalar b => a.equal b
  | .coords a, .coords b => a.equal Scalar.equal b
  | .point name place, .point name' place' => name == name' && equal place place'
  | .line extent start stop, .line extent' start' stop' =>
      extent == extent' && equal start start' && equal stop stop'
  | .perpendicular base apex, .perpendicular base' apex' => equal base base' && equal apex apex'
  | .triangle first second third, .triangle first' second' third' =>
      equal first first' && equal second second' && equal third third'
  | .command operator object, .command operator' object' =>
      operator == operator' && equal object object'
  | .task commands, .task commands' => equalAll commands commands'
  | .token a, .token b => a == b
  | _, _ => false

def equalAll : List Item → List Item → Bool
  | [], [] => true
  | a :: rest, b :: rest' => equal a b && equalAll rest rest'
  | _, _ => false

end

end Item

end Straightedge
