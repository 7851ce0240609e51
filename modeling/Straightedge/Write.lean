import Straightedge.Item

namespace Straightedge

inductive WriteError where
  | notNumber (description : String)
  | notFinite (value : Binary64)
  | notFigure (description : String)
  | notTask
  | partMissing (item : Item) (name : String)
  | overlong (cause : Numeral.Overlong)

namespace WriteError

def kind : WriteError → String
  | .notNumber _ => "TypeError"
  | .notFinite _ => "ValueError"
  | .notFigure _ => "TypeError"
  | .notTask => "TypeError"
  | .partMissing _ _ => "AttributeError"
  | .overlong _ => "ValueError"

def message : WriteError → String
  | .notNumber description => "Expected a number, got " ++ description
  | .notFinite value =>
      "Cannot write non-finite number " ++ String.ofList (Layout.short.real value)
  | .notFigure description => "No emitter method for node " ++ description
  | .notTask => "format_task expects a TaskNode instance."
  | .partMissing item name => "'" ++ item.kind ++ "' object has no attribute '" ++ name ++ "'"
  | .overlong cause => cause.message

-- What is refused has to be described first, and describing it may fail.
def describing (error : String → WriteError) : Except Numeral.Overlong String → WriteError
  | .ok description => error description
  | .error cause => .overlong cause

end WriteError

def Number.write : Number → Except WriteError String
  | .integer n => (Number.written Layout.plain (.integer n)).mapError .overlong
  | .real value =>
      if value.isFinite then .ok (Number.text Layout.plain (.real value))
      else .error (.notFinite value)

def Scalar.write : Scalar → Except WriteError String
  | .number value => value.write
  | other => .error (.describing .notNumber other.describe)

def coordsText (x y : String) : String :=
  Vocabulary.opening ++ x ++ Vocabulary.comma ++ " " ++ y ++ Vocabulary.closing

def alone (point : String) : String := Keyword.point.spelling ++ " " ++ point

def lineText (extent : Extent) (start stop : String) : String :=
  extent.keyword.spelling ++ " " ++ start ++ " " ++ stop

-- The apex of a perpendicular is written before its base.
def perpendicularText (apex base : String) : String :=
  Keyword.perpendicular.spelling ++ " " ++ apex ++ " " ++ base

def triangleText (first second third : String) : String :=
  Keyword.triangle.spelling ++ " " ++ first ++ " " ++ second ++ " " ++ third

def commandText (operator object : String) : String :=
  operator ++ " " ++ object ++ Vocabulary.terminator

def joinLines (lines : List String) : String := "\n".intercalate lines

def addLines {κ : Type} (write : κ → Except WriteError String) (lines : List String) :
    List κ → List String × Except WriteError Unit
  | [] => (lines, .ok ())
  | command :: rest =>
      match write command with
      | .ok line => addLines write (lines ++ [line]) rest
      | .error error => (lines, .error error)

def writeLines {κ : Type} (write : κ → Except WriteError String) (commands : List κ) :
    Except WriteError String :=
  match addLines write [] commands with
  | (lines, .ok ()) => .ok (joinLines lines)
  | (_, .error error) => .error error

def Coords.write (coords : Coords Number) : Except WriteError String := do
  let x ← coords.x.write
  let y ← coords.y.write
  return coordsText x y

def Point.write (point : Point Number) : Except WriteError String := do
  return point.name ++ (← point.coords.write)

def Line.write (line : Line Number) : Except WriteError String := do
  let start ← line.start.write
  let stop ← line.stop.write
  return lineText line.extent start stop

def Figure.write : Figure Number → Except WriteError String
  | .point place => do return alone (← place.write)
  | .line path => path.write
  | .perpendicular base apex => do
      let apex ← apex.write
      let base ← base.write
      return perpendicularText apex base
  | .triangle first second third => do
      let first ← first.write
      let second ← second.write
      let third ← third.write
      return triangleText first second third

def Command.write (command : Command Number) : Except WriteError String := do
  return commandText command.operator (← command.object.write)

def Task.write (task : Task Number) : Except WriteError String := writeLines Command.write task

-- A part of a wrong kind is refused when it is its turn to be written.

namespace Item

def writeCoords : Item → Except WriteError String
  | .coords pair => do
      let x ← pair.x.write
      let y ← pair.y.write
      return coordsText x y
  | other => .error (.partMissing other "x")

def writePoint : Item → Except WriteError String
  | .point name place => do return name ++ (← place.writeCoords)
  | other => .error (.partMissing other "identifier")

-- Other figures are told from lines by their parts only.
def writeLine (item : Item) : Except WriteError String :=
  match item with
  | .line extent start stop => do
      let start ← start.writePoint
      let stop ← stop.writePoint
      return lineText extent start stop
  | .point _ _ | .perpendicular _ _ | .triangle _ _ _ => .error (.partMissing item "point_from")
  | other => .error (.partMissing other "kind")

def writePerpendicular : Item → Except WriteError String
  | .perpendicular base apex => do
      let apex ← apex.writePoint
      let base ← base.writeLine
      return perpendicularText apex base
  | other => .error (.partMissing other "from_point")

def writeTriangle : Item → Except WriteError String
  | .triangle first second third => do
      let first ← first.writePoint
      let second ← second.writePoint
      let third ← third.writePoint
      return triangleText first second third
  | other => .error (.partMissing other "p1")

def writeFigure (item : Item) : Except WriteError String :=
  match item with
  | .point _ _ => do return alone (← item.writePoint)
  | .line _ _ _ => item.writeLine
  | .perpendicular _ _ => item.writePerpendicular
  | .triangle _ _ _ => item.writeTriangle
  | other => .error (.describing .notFigure other.describe)

def writeCommand : Item → Except WriteError String
  | .command operator object => do return commandText operator (← object.writeFigure)
  | other => .error (.partMissing other "operator")

def addLinesOf (lines : List String) : Item → List String × Except WriteError Unit
  | .task commands => addLines writeCommand lines commands
  | other => (lines, .error (.partMissing other "commands"))

def writeTask : Item → Except WriteError String
  | .task commands => writeLines writeCommand commands
  | _ => .error .notTask

end Item

end Straightedge
