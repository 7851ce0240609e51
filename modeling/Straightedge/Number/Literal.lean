import Straightedge.Number.Basic
import Straightedge.Text.Blank
import Straightedge.Text.Digit

namespace Straightedge.Literal

open Text

def isPadding (c : Char) : Bool :=
  isBlank c && !(decide (0x1C ≤ c.toNat) && decide (c.toNat ≤ 0x1F))

def trim (text : List Char) : List Char :=
  ((text.dropWhile isPadding).reverse.dropWhile isPadding).reverse

def plainDigit (c : Char) : Char :=
  match digitValue? c with
  | some n => Nat.digitChar n
  | none => c

-- The text without its underscores, unless one of them does not stand between two digits.
def ungroup? (previous : Char) : List Char → Option (List Char)
  | [] => some []
  | ['_'] => none
  | '_' :: next :: rest =>
      if previous.isDigit && next.isDigit then (ungroup? next rest).map (next :: ·) else none
  | c :: rest => (ungroup? c rest).map (c :: ·)

def plainText? (text : String) : Option (List Char) :=
  ungroup? ' ' ((trim text.toList).map plainDigit)

def splitSign : List Char → Bool × List Char
  | '-' :: rest => (true, rest)
  | '+' :: rest => (false, rest)
  | text => (false, text)

inductive Refusal where
  | malformed
  | overlong (cause : Numeral.Overlong)
deriving DecidableEq

def integer (text : String) : Except Refusal Int :=
  match (plainText? text).map splitSign with
  | none => .error .malformed
  | some (negative, digits) =>
      if digits.isEmpty || !digits.all Char.isDigit then .error .malformed
      else if digits.length ≤ Numeral.longest then
        .ok (if negative then -(Numeral.value digits : Int) else (Numeral.value digits : Int))
      else .error (.overlong (.reading digits.length))

def integer? (text : String) : Option Int := (integer text).toOption

def exponent? : List Char → Option Int
  | [] => some 0
  | mark :: text => do
      let (negative, digits) := splitSign text
      guard (mark.toLower == 'e' && !digits.isEmpty && digits.all Char.isDigit)
      return if negative then -(Numeral.value digits : Int) else (Numeral.value digits : Int)

def splitFraction : List Char → List Char × List Char
  | '.' :: text => text.span Char.isDigit
  | text => ([], text)

def decimal? (negative : Bool) (text : List Char) : Option Binary64 := do
  let (whole, rest) := text.span Char.isDigit
  let (fraction, tail) := splitFraction rest
  let digits := whole ++ fraction
  guard !digits.isEmpty
  return Binary64.ofDecimal negative (Numeral.value digits) ((← exponent? tail) - fraction.length)

def real? (text : String) : Option Binary64 := do
  let (negative, magnitude) := splitSign (← plainText? text)
  let name := magnitude.map Char.toLower
  if name = "inf".toList ∨ name = "infinity".toList then return .infinite negative
  else if name = "nan".toList then return .nan
  else decimal? negative magnitude

def real (text : String) : Except Refusal Binary64 := (real? text).elim (.error .malformed) .ok

end Straightedge.Literal
