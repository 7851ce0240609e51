import Straightedge.Number.Shortest

namespace Straightedge

structure Layout where
  -- Whether a number whose first digit has this decimal exponent is written without an exponent.
  positional : Int → Bool
  infinity : String
  notANumber : String

namespace Layout

def short : Layout where
  positional lead := decide (-4 ≤ lead ∧ lead < 16)
  infinity := "inf"
  notANumber := "nan"

def document : Layout := { short with infinity := "Infinity", notANumber := "NaN" }

def plain : Layout := { short with positional := fun _ => true }

def positionalText (digits : List Char) : Int → List Char
  | .negSucc zeros => '0' :: '.' :: (List.replicate zeros '0' ++ digits)
  | .ofNat lead =>
      let whole := digits.take (lead + 1) ++ List.replicate (lead + 1 - digits.length) '0'
      let fraction := digits.drop (lead + 1)
      whole ++ '.' :: (if fraction.isEmpty then ['0'] else fraction)

-- An exponent has a sign and at least two digits.
def exponentText (lead : Int) : List Char :=
  let digits := Numeral.digits lead.natAbs
  'e' :: (if lead < 0 then '-' else '+') :: (List.replicate (2 - digits.length) '0' ++ digits)

def scientificText (digits : List Char) (lead : Int) : List Char :=
  let fraction := digits.drop 1
  digits.take 1 ++ (if fraction.isEmpty then [] else '.' :: fraction) ++ exponentText lead

def magnitude (layout : Layout) (rank : Fin Binary64.ranks) : List Char :=
  let ⟨digits, lead⟩ := Binary64.shortest rank
  if layout.positional lead then positionalText digits lead else scientificText digits lead

def signed (negative : Bool) (text : List Char) : List Char :=
  if negative then '-' :: text else text

def real (layout : Layout) : Binary64 → List Char
  | .finite negative rank => signed negative (layout.magnitude rank)
  | .infinite negative => signed negative layout.infinity.toList
  | .nan => layout.notANumber.toList

end Layout

end Straightedge
