import Straightedge.Text.Blank
import Straightedge.Text.Capital
import Straightedge.Text.Letter
import Straightedge.Token.Basic

namespace Straightedge

open Text

inductive Lexeme where
  | word (text : List Char)
  | number (text : List Char) (fractional : Bool)
  | separator (c : Char)
deriving DecidableEq

namespace Lexeme

def text : Lexeme → List Char
  | .word text => text
  | .number text _ => text
  | .separator c => [c]

def reserved? (word : List Char) : Option Category :=
  Vocabulary.reserved? (String.ofList (capitals word))

def category : Lexeme → Category
  | .word text => (reserved? text).getD .identifier
  | .number _ fractional => if fractional then .fractionalLiteral else .integerLiteral
  | .separator _ => .separator

def value : Lexeme → String
  | .word text => String.ofList (if (reserved? text).isSome then capitals text else text)
  | lexeme => String.ofList lexeme.text

def token (lexeme : Lexeme) (offset : Nat) : Token := ⟨lexeme.category, lexeme.value, offset⟩

def sign : List Char → List Char
  | '-' :: _ => ['-']
  | _ => []

-- A point and the digits after it. A point without a digit after it is no fraction.
def fraction : List Char → List Char
  | '.' :: rest => if (rest.head?.any Char.isDigit) then '.' :: rest.takeWhile Char.isDigit else []
  | _ => []

-- Each of sign, digits and fraction may be missing.
def numberIn (source : List Char) : Lexeme :=
  let sign := sign source
  let whole := (source.drop sign.length).takeWhile Char.isDigit
  let fraction := fraction (source.drop (sign.length + whole.length))
  .number (sign ++ whole ++ fraction) !fraction.isEmpty

def startsNumber : List Char → Bool
  | '-' :: rest => rest.head?.any Char.isDigit
  | c :: _ => c.isDigit
  | [] => false

def front? : List Char → Option Lexeme
  | [] => none
  | c :: rest =>
      if isWordStart c then some (.word ((c :: rest).takeWhile isWordPart))
      else if startsNumber (c :: rest) then some (numberIn (c :: rest))
      else if c ∈ Vocabulary.separators then some (.separator c)
      else none

theorem number_in_ne_nil (source : List Char) (starts : startsNumber source = true) :
    (numberIn source).text ≠ [] := by
  match source with
  | [] => simp [startsNumber] at starts
  | c :: rest =>
    by_cases minus : c = '-'
    · subst minus
      simp [numberIn, text, sign]
    · have digit : c.isDigit = true := by
        simpa [startsNumber, minus] using starts
      simp [numberIn, text, sign, minus, digit]

theorem front_ne_nil (source : List Char) (lexeme : Lexeme)
    (found : front? source = some lexeme) : lexeme.text ≠ [] := by
  match source with
  | [] => simp [front?] at found
  | c :: rest =>
    simp only [front?] at found
    split at found
    · rename_i starts
      cases found
      simp [text, word_part_of_word_start c starts]
    · split at found
      · rename_i starts
        cases found
        exact number_in_ne_nil (c :: rest) starts
      · split at found <;> cases found
        simp [text]

end Lexeme

end Straightedge
