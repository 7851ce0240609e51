import Mathlib.Data.List.Forall2
import Straightedge.Parse.Drawing
import Straightedge.Proofs.Number.Rounding

namespace Straightedge.Grammar

-- Terminals: tokens of a category with a given spelling or with any, and numbers in range.

structure Fixed (category : Category) (value : String) where
  offset : Int

structure Free (category : Category) where
  value : String
  offset : Int

inductive Denotes : Token → Number → Prop where
  | integer (text : String) (offset n : Int) (reads : Literal.integer? text = some n)
      (inRange : n.natAbs < Binary64.rangeEnd) : Denotes ⟨.integerLiteral, text, offset⟩ (.integer n)
  | real (text : String) (offset : Int) (value : Binary64) (reads : Literal.real? text = some value)
      (finite : value.isFinite = true) : Denotes ⟨.fractionalLiteral, text, offset⟩ (.real value)

theorem digit_denotes (text : String) (offset : Int) (n : Nat) (reads : Literal.integer? text = some ↑n) (digit : n < 10) :
    Denotes ⟨.integerLiteral, text, offset⟩ (.integer n) := by
  have ten : 10 ≤ Binary64.rangeEnd := by decide +kernel
  exact .integer text offset n reads (Nat.lt_of_lt_of_le digit ten)

structure Numeral where
  token : Token
  value : Number
  denotes : Denotes token value

def Fixed.token {category : Category} {value : String} (fixed : Fixed category value) : Token :=
  ⟨category, value, fixed.offset⟩

def Free.token {category : Category} (free : Free category) : Token := ⟨category, free.value, free.offset⟩

abbrev Word (keyword : Keyword) := Fixed .keyword keyword.spelling

abbrev Sign (value : String) := Fixed .separator value

structure Coords where
  opening : Sign Vocabulary.opening
  x : Numeral
  comma : Sign Vocabulary.comma
  y : Numeral
  closing : Sign Vocabulary.closing

structure Point where
  keyword : Option (Word .point)
  name : Free .identifier
  coords : Option Coords

structure Line where
  extent : Extent
  keyword : Word extent.keyword
  start : Point
  stop : Point

inductive Object where
  | point (keyword : Word .point) (name : Free .identifier) (coords : Option Coords)
  | line (path : Line)
  | perpendicular (keyword : Word .perpendicular) (apex : Point) (base : Line)
  | triangle (keyword : Word .triangle) (first second third : Point)

structure Command where
  operator : Free .operator
  object : Object
  terminator : Sign Vocabulary.terminator

structure Task where
  first : Command
  rest : List Command

def Coords.tokens (coords : Coords) : List Token :=
  [coords.opening.token, coords.x.token, coords.comma.token, coords.y.token, coords.closing.token]

def Point.tokens (point : Point) : List Token :=
  (point.keyword.map Fixed.token).toList ++ point.name.token :: point.coords.elim [] Coords.tokens

def Line.tokens (line : Line) : List Token :=
  line.keyword.token :: (line.start.tokens ++ line.stop.tokens)

def Object.tokens : Object → List Token
  | .point keyword name coords => Point.tokens ⟨some keyword, name, coords⟩
  | .line path => path.tokens
  | .perpendicular keyword apex base => keyword.token :: (apex.tokens ++ base.tokens)
  | .triangle keyword first second third =>
      keyword.token :: (first.tokens ++ second.tokens ++ third.tokens)

def Command.tokens (command : Command) : List Token :=
  command.operator.token :: (command.object.tokens ++ [command.terminator.token])

def Task.commands (task : Task) : List Command := task.first :: task.rest

def Task.tokens (task : Task) : List Token := task.commands.flatMap Command.tokens

def Line.points (line : Line) : List Point := [line.start, line.stop]

def Object.points : Object → List Point
  | .point keyword name coords => [⟨some keyword, name, coords⟩]
  | .line path => path.points
  | .perpendicular _ apex base => apex :: base.points
  | .triangle _ first second third => [first, second, third]

def Task.points (task : Task) : List Point := task.commands.flatMap fun command => command.object.points

-- What a derivation says of the drawing. Coordinates that are not written are left open.

def Coords.value (coords : Coords) : Straightedge.Coords Number := ⟨coords.x.value, coords.y.value⟩

def Point.Yields (tree : Point) (point : Straightedge.Point Number) : Prop :=
  point.name = tree.name.value ∧ ∀ coords ∈ tree.coords, point.coords = coords.value

def Line.Yields (tree : Line) (line : Straightedge.Line Number) : Prop :=
  line.extent = tree.extent ∧ tree.start.Yields line.start ∧ tree.stop.Yields line.stop

def Object.Yields : Object → Figure Number → Prop
  | .point keyword name coords, .point place => Point.Yields ⟨some keyword, name, coords⟩ place
  | .line tree, .line path => tree.Yields path
  | .perpendicular _ apexTree baseTree, .perpendicular base apex => apexTree.Yields apex ∧ baseTree.Yields base
  | .triangle _ firstTree secondTree thirdTree, .triangle first second third =>
      firstTree.Yields first ∧ secondTree.Yields second ∧ thirdTree.Yields third
  | _, _ => False

def Command.Yields (tree : Command) (command : Straightedge.Command Number) : Prop :=
  command.operator = tree.operator.value ∧ tree.object.Yields command.object

def Task.Yields (tree : Task) (drawing : Drawing) : Prop :=
  List.Forall₂ Command.Yields tree.commands drawing

-- The source is `DRAW SEGMENT A A.`: the first point is new, the second one is not.
def sharedSegment : Task :=
  ⟨⟨⟨"DRAW", 0⟩, .line ⟨.segment, ⟨5⟩, ⟨none, ⟨"A", 13⟩, none⟩, ⟨none, ⟨"A", 15⟩, none⟩⟩, ⟨16⟩⟩, []⟩

end Straightedge.Grammar
