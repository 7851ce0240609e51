import Straightedge.Token.Basic

namespace Straightedge

inductive Expectation where
  | validCharacter
  | initial
  | objectName
  | baseName
  | pointDefinition
  | number
  | token (category : Option Category) (value : Option String)
  | phrase (text : String)
deriving DecidableEq

namespace Expectation

def objectNames : String := ", ".intercalate (Keyword.all.map Keyword.spelling)

-- A part that is not asked for is left blank.
def text : Expectation → String
  | .validCharacter => "valid character"
  | .initial => "initial"
  | .objectName => "name of a graphical object (" ++ objectNames ++ ")"
  | .baseName => Keyword.line.spelling ++ " or " ++ Keyword.segment.spelling
  | .pointDefinition => "point definition"
  | .number => "any number"
  | .token category value =>
      (category.map Category.name).getD "" ++ " <" ++ value.getD "" ++ ">"
  | .phrase text => text

end Expectation

structure SyntaxError where
  expected : Expectation
  offset : Int
  actual : String
deriving DecidableEq

namespace SyntaxError

def unmet (expected : Expectation) (found : Snapshot) : SyntaxError :=
  ⟨expected, found.offset, found.value⟩

def message (error : SyntaxError) : String :=
  toString error.offset ++ ": ..." ++ error.actual ++ " -> Expected token <" ++
    error.expected.text ++ ">."

end SyntaxError

end Straightedge
