import Straightedge.Number.Layout

namespace Straightedge

inductive Number where
  | integer (value : Int)
  | real (value : Binary64)
deriving DecidableEq

inductive Overflow where
  | conversion
  | quotient
deriving DecidableEq

def Overflow.message : Overflow → String
  | .conversion => "int too large to convert to float"
  | .quotient => "integer division result too large for a float"

namespace Number

def toReal : Number → Except Overflow Binary64
  | .integer n => (Binary64.ofInt? n).elim (.error .conversion) .ok
  | .real value => .ok value

def add : Number → Number → Except Overflow Number
  | .integer m, .integer n => .ok (.integer (m + n))
  | a, b => do return .real ((← a.toReal).add (← b.toReal))

def dividedBy : Number → Nat → Except Overflow Number
  | .integer n, count => (Binary64.ofRatio? n count).elim (.error .quotient) fun value => .ok (.real value)
  | .real value, count => .ok (.real (value.dividedBy count))

-- An integer is converted first, which fails beyond the range.
def finite (value : Number) : Except Overflow Bool := do return (← value.toReal).isFinite

def isFinite : Number → Bool
  | .integer n => (Binary64.ofInt? n).isSome
  | .real value => value.isFinite

def equal : Number → Number → Bool
  | .integer m, .integer n => m == n
  | .integer m, .real b => b.equalInt m
  | .real a, .integer n => a.equalInt n
  | .real a, .real b => a.equal b

def text (layout : Layout) : Number → String
  | .integer n => String.ofList (Numeral.integer n)
  | .real value => String.ofList (layout.real value)

-- The same text where the integer may be of any size.
def written (layout : Layout) : Number → Except Numeral.Overlong String
  | .integer n => String.ofList <$> Numeral.written n
  | .real value => .ok (String.ofList (layout.real value))

theorem finite_integer (n : Int) :
    (Number.integer n).finite = if (Number.integer n).isFinite then .ok true else .error .conversion := by
  rw [finite, toReal, isFinite, Binary64.ofInt?, Binary64.ofRatio?]
  generalize Binary64.nearest (decide (n < 0)) (n.natAbs * Nat.pow 2 1074) 1 = value
  cases inside : value.isFinite with
  | true =>
      show Except.ok value.isFinite = _
      rw [inside]
      rfl
  | false => rfl

@[simp] theorem finite_real (value : Binary64) : (Number.real value).finite = .ok value.isFinite := rfl

end Number

end Straightedge
