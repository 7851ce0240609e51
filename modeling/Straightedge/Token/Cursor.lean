import Straightedge.Token.Scan

namespace Straightedge

inductive Exhausted where
  | characters (position : Nat)
  | tokens
deriving DecidableEq

def Exhausted.message : Exhausted → String
  | .characters position =>
      "CharacterStreamError: Attempted to read past end of source at position=<" ++
        toString position ++ ">"
  | .tokens => "token stream exhausted"

-- A cursor never stands in front of its source, and no character of a source is half of a pair.
structure Cursor where
  source : List Char
  position : Nat
deriving DecidableEq

namespace Cursor

def rest (cursor : Cursor) : List Char := cursor.source.drop cursor.position

def advance (cursor : Cursor) (size : Nat) : Cursor :=
  { cursor with position := cursor.position + size }

@[simp] theorem rest_advance (cursor : Cursor) (size : Nat) : (cursor.advance size).rest = cursor.rest.drop size := by
  simp [advance, rest]

@[simp] theorem advance_advance (cursor : Cursor) (first second : Nat) :
    (cursor.advance first).advance second = cursor.advance (first + second) := by
  simp [advance, Nat.add_assoc]

@[simp] theorem advance_zero (cursor : Cursor) : cursor.advance 0 = cursor := rfl

def atEnd (cursor : Cursor) : Bool := cursor.rest.isEmpty

-- A negative distance looks back.
def peek? (cursor : Cursor) (distance : Int) : Option Char :=
  match (cursor.position : Int) + distance with
  | .ofNat index => cursor.source[index]?
  | .negSucc _ => none

def next (cursor : Cursor) : Except Exhausted Char × Cursor :=
  match cursor.rest with
  | [] => (.error (.characters cursor.position), cursor)
  | c :: _ => (.ok c, cursor.advance 1)

def skipGap (cursor : Cursor) : Cursor := cursor.advance (gapLength false cursor.rest)

-- Goes to the end of the line.
def skipComment (cursor : Cursor) : Cursor :=
  cursor.advance (cursor.rest.takeWhile (· ≠ '\n')).length

def number (cursor : Cursor) : Token × Cursor :=
  let lexeme := Lexeme.numberIn cursor.rest
  (lexeme.token cursor.position, cursor.advance lexeme.text.length)

-- An invalid character is not consumed.
def nextToken (cursor : Cursor) : Except SyntaxError (Option Token) × Cursor :=
  match front cursor.rest with
  | .finish gap => (.ok none, cursor.advance gap)
  | .invalid gap c =>
      (.error ⟨.validCharacter, (cursor.position + gap : Nat), String.singleton c⟩, cursor.advance gap)
  | .lexeme gap lexeme =>
      (.ok (some (lexeme.token (cursor.position + gap))), cursor.advance (gap + lexeme.text.length))

def tokens (cursor : Cursor) : Except SyntaxError (List Token) × Cursor :=
  let (tokens, stop) := scan cursor.position cursor.rest
  (tokens, { cursor with position := stop })

end Cursor

end Straightedge
