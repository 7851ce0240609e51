import Straightedge.Number.Binary64
import Straightedge.Number.Numeral

namespace Straightedge.Binary64

-- The decimal exponent is that of the first digit.
structure Scientific where
  digits : List Char
  lead : Int
deriving DecidableEq

def exactDecimal (rank : Nat) : Nat := units rank * Nat.pow 5 1074

-- The nearer one comes first.
def neighbours (exact dropped : Nat) : List Nat :=
  let floor := exact / Nat.pow 10 dropped
  if roundEven exact (Nat.pow 10 dropped) = floor then [floor, floor + 1] else [floor + 1, floor]

def readsBack (rank : Fin ranks) (digits dropped : Nat) : Bool :=
  ofDecimal false digits (dropped - 1074) == .finite false rank

-- The first hit as fewer and fewer places are dropped. With none dropped the decimal is exact.
def shortestFrom (rank : Fin ranks) (exact : Nat) : Nat → Nat × Nat
  | 0 => (exact, 0)
  | dropped + 1 =>
      match (neighbours exact (dropped + 1)).find? fun n => readsBack rank n (dropped + 1) with
      | some digits => (digits, dropped + 1)
      | none => shortestFrom rank exact dropped

-- The factor is just above the decimal logarithm of two.
def placesBound (exact : Nat) : Nat := (exact.log2 + 1) * 30103 / 100000

def trimZeros (digits : List Char) : List Char :=
  (digits.reverse.dropWhile (· == '0')).reverse

def shortest (rank : Fin ranks) : Scientific :=
  if rank.val = 0 then ⟨['0'], 0⟩
  else
    let exact := exactDecimal rank
    let (digits, dropped) := shortestFrom rank exact (placesBound exact)
    let row := Numeral.digits digits
    ⟨trimZeros row, row.length - 1 + dropped - 1074⟩

end Straightedge.Binary64
