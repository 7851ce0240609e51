import Straightedge.SyntaxError
import Straightedge.Token.Lexeme

namespace Straightedge

open Text

def commentMark : Char := '#'

-- A gap may start inside a comment.
def gapLength : Bool → List Char → Nat
  | _, [] => 0
  | true, c :: rest => gapLength (decide (c ≠ '\n')) rest + 1
  | false, c :: rest =>
      if isBlank c then gapLength false rest + 1
      else if c = commentMark then gapLength true rest + 1
      else 0

inductive Front where
  | finish (gap : Nat)
  | lexeme (gap : Nat) (lexeme : Lexeme)
  | invalid (gap : Nat) (c : Char)
deriving DecidableEq

def front (source : List Char) : Front :=
  let gap := gapLength false source
  match source.drop gap with
  | [] => .finish gap
  | c :: rest =>
      match Lexeme.front? (c :: rest) with
      | some lexeme => .lexeme gap lexeme
      | none => .invalid gap c

theorem front_lexeme (source : List Char) (gap : Nat) (lexeme : Lexeme)
    (found : front source = .lexeme gap lexeme) :
    gap < source.length ∧ lexeme.text ≠ [] := by
  simp only [front] at found
  split at found
  · cases found
  · rename_i c rest left
    split at found <;> cases found
    rename_i read
    constructor
    · have some := congrArg List.length left
      simp only [List.length_drop, List.length_cons] at some
      omega
    · exact Lexeme.front_ne_nil (c :: rest) lexeme read

theorem front_shrinks (source : List Char) (gap : Nat) (lexeme : Lexeme)
    (found : front source = .lexeme gap lexeme) :
    (source.drop (gap + lexeme.text.length)).length < source.length := by
  obtain ⟨inside, filled⟩ := front_lexeme source gap lexeme found
  have longer := List.length_pos_iff.mpr filled
  rw [List.length_drop]
  omega

def scan (offset : Nat) (source : List Char) : Except SyntaxError (List Token) × Nat :=
  match _read : front source with
  | .finish gap => (.ok [], offset + gap)
  | .invalid gap c => (.error ⟨.validCharacter, (offset + gap : Nat), String.singleton c⟩, offset + gap)
  | .lexeme gap lexeme =>
      let size := gap + lexeme.text.length
      let (tokens, stop) := scan (offset + size) (source.drop size)
      (tokens.map (lexeme.token (offset + gap) :: ·), stop)
termination_by source.length
decreasing_by exact front_shrinks source gap lexeme _read

def tokenize (source : String) : Except SyntaxError (List Token) := (scan 0 source.toList).1

end Straightedge
