import Straightedge.Item
import Straightedge.Parse.Drawing
import Straightedge.Text.Hex

namespace Straightedge

inductive Document where
  | scalar (value : Scalar)
  | list (items : List Document)
  | record (fields : List (String × Document))

namespace Document

def text (value : String) : Document := .scalar (.text value)

-- Characters beyond 16 bits are written as the two halves of a surrogate pair.
def escape (c : Char) : List Char :=
  let code := c.toNat
  if c = '\x22' ∨ c = '\x5c' then ['\x5c', c]
  else if c = '\n' then ['\x5c', 'n']
  else if c = '\r' then ['\x5c', 'r']
  else if c = '\t' then ['\x5c', 't']
  else if code = 0x08 then ['\x5c', 'b']
  else if code = 0x0C then ['\x5c', 'f']
  else if 0x20 ≤ code ∧ code < 0x7F then [c]
  else if code < 0x10000 then ['\x5c', 'u'] ++ Text.hex 4 code
  else
    let high := 0xD800 + (code - 0x10000) / 0x400
    let low := 0xDC00 + (code - 0x10000) % 0x400
    ['\x5c', 'u'] ++ Text.hex 4 high ++ ['\x5c', 'u'] ++ Text.hex 4 low

def quote (value : String) : String :=
  String.ofList ('\x22' :: value.toList.flatMap escape ++ ['\x22'])

def scalarText : Scalar → String
  | .number value => value.text Layout.document
  | .text value => quote value
  | .truth value => if value then "true" else "false"
  | .absent => "null"

def newLine (level : Nat) : String := "\n" ++ String.ofList (List.replicate (2 * level) ' ')

def bracket (opening closing : String) (level : Nat) (parts : List String) : String :=
  if parts.isEmpty then opening ++ closing
  else
    opening ++ newLine (level + 1) ++ ("," ++ newLine (level + 1)).intercalate parts ++
      newLine level ++ closing

mutual

def print (level : Nat) : Document → String
  | .scalar value => scalarText value
  | .list items => bracket "[" "]" level (printItems (level + 1) items)
  | .record fields => bracket "\x7b" "\x7d" level (printFields (level + 1) fields)

def printItems (level : Nat) : List Document → List String
  | [] => []
  | item :: rest => print level item :: printItems level rest

def printFields (level : Nat) : List (String × Document) → List String
  | [] => []
  | (name, value) :: rest => (quote name ++ ": " ++ print level value) :: printFields level rest

end

end Document

def pointDocument (name : String) (coords : Document) : Document :=
  .record [("kind", .text "point"), ("identifier", .text name), ("coords", coords)]

def lineDocument (extent : Extent) (start stop : Document) : Document :=
  .record [("kind", .text extent.kind), ("point_from", start), ("point_to", stop)]

def perpendicularDocument (base apex : Document) : Document :=
  .record [("kind", .text "perpendicular"), ("base", base), ("from_point", apex)]

def triangleDocument (first second third : Document) : Document :=
  .record [("kind", .text "triangle"), ("p1", first), ("p2", second), ("p3", third)]

def commandDocument (operator : String) (object : Document) : Document :=
  .record [("kind", .text "command"), ("operator", .text operator), ("object", object)]

def taskDocument (commands : List Document) : Document :=
  .record [("kind", .text "task"), ("commands", .list commands)]

def coordsDocument (coords : Coords Scalar) : Document :=
  .record [("x", .scalar coords.x), ("y", .scalar coords.y)]

def Coords.document (coords : Coords Number) : Document :=
  coordsDocument ⟨.number coords.x, .number coords.y⟩

def Point.document (point : Point Number) : Document :=
  pointDocument point.name point.coords.document

def Line.document (line : Line Number) : Document :=
  lineDocument line.extent line.start.document line.stop.document

def Figure.document : Figure Number → Document
  | .point place => place.document
  | .line path => path.document
  | .perpendicular base apex => perpendicularDocument base.document apex.document
  | .triangle first second third =>
      triangleDocument first.document second.document third.document

def Command.document (command : Command Number) : Document :=
  commandDocument command.operator command.object.document

def Drawing.document (drawing : Drawing) : Document := taskDocument (drawing.map Command.document)

def Table.document (table : Table) : Document :=
  .record (table.map fun (name, coords) => (name, coords.document))

def reportDocument (drawing : Drawing) (table : Table) : Document :=
  .record [("task", drawing.document), ("identifiers", table.document)]

-- Items. Scalars and tokens have no layout of their own: the first of them is the error.

namespace Item

mutual

def document : Item → Except Item Document
  | .scalar value => .error (.scalar value)
  | .coords pair => .ok (coordsDocument pair)
  | .point name place => do return pointDocument name (← document place)
  | .line extent start stop => do
      let start ← document start
      let stop ← document stop
      return lineDocument extent start stop
  | .perpendicular base apex => do
      let base ← document base
      let apex ← document apex
      return perpendicularDocument base apex
  | .triangle first second third => do
      let first ← document first
      let second ← document second
      let third ← document third
      return triangleDocument first second third
  | .command operator object => do return commandDocument operator (← document object)
  | .task commands => do return taskDocument (← documents commands)
  | .token value => .error (.token value)

def documents : List Item → Except Item (List Document)
  | [] => .ok []
  | item :: rest => do
      let first ← document item
      let others ← documents rest
      return first :: others

end

end Item

end Straightedge
