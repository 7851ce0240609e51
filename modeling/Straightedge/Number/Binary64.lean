namespace Straightedge

-- How many finite magnitudes there are. The next rank is that of `2 ^ 1024`.
def Binary64.ranks : Nat := 2047 * Nat.pow 2 52

inductive Binary64 where
  | finite (negative : Bool) (rank : Fin Binary64.ranks)
  | infinite (negative : Bool)
  | nan
deriving DecidableEq

namespace Binary64

-- Each binade above the first two holds `2 ^ 52` magnitudes, twice as far apart as those before.
def units (rank : Nat) : Nat :=
  if rank < Nat.pow 2 52 then rank
  else (Nat.pow 2 52 + rank % Nat.pow 2 52) * Nat.pow 2 (rank / Nat.pow 2 52 - 1)

def roundEven (numerator denominator : Nat) : Nat :=
  let floor := numerator / denominator
  let excess := 2 * (numerator % denominator)
  if excess < denominator ∨ (excess = denominator ∧ floor % 2 = 0) then floor else floor + 1

-- Ranks beyond the last one are out of range.
def nearestRank (numerator denominator : Nat) : Nat :=
  let shift := (numerator / denominator).log2 - 52
  shift * Nat.pow 2 52 + roundEven numerator (denominator * Nat.pow 2 shift)

def ofRank (negative : Bool) (rank : Nat) : Binary64 :=
  if h : rank < ranks then .finite negative ⟨rank, h⟩ else .infinite negative

def nearest (negative : Bool) (numerator denominator : Nat) : Binary64 :=
  ofRank negative (nearestRank numerator denominator)

def zero (negative : Bool) : Binary64 := ofRank negative 0

-- A magnitude of `10 ^ 310` or more is out of range, and one far below half a unit is zero: neither
-- is computed.
def ofDecimal (negative : Bool) (digits : Nat) (exponent : Int) : Binary64 :=
  if digits = 0 then zero negative
  else match exponent with
    | .ofNat power =>
        if 309 < power then .infinite negative
        else nearest negative (digits * Nat.pow 10 power * Nat.pow 2 1074) 1
    | .negSucc power =>
        if digits.log2 + 1200 < power then zero negative
        else nearest negative (digits * Nat.pow 2 1074) (Nat.pow 10 (power + 1))

def signedUnits (negative : Bool) (rank : Nat) : Int :=
  if negative then -(units rank : Int) else (units rank : Int)

def isFinite : Binary64 → Bool
  | .finite _ _ => true
  | _ => false

-- A sum that is zero is negative only if both terms are.
def add : Binary64 → Binary64 → Binary64
  | .nan, _ => .nan
  | _, .nan => .nan
  | .infinite s, .infinite t => if s = t then .infinite s else .nan
  | .infinite s, .finite _ _ => .infinite s
  | .finite _ _, .infinite t => .infinite t
  | .finite s a, .finite t b =>
      let sum := signedUnits s a + signedUnits t b
      if sum = 0 then zero (s && t) else nearest (decide (sum < 0)) sum.natAbs 1

def dividedBy (value : Binary64) (count : Nat) : Binary64 :=
  match value with
  | .finite negative rank => nearest negative (units rank) count
  | .infinite negative => .infinite negative
  | .nan => .nan

def ofRatio? (numerator : Int) (count : Nat) : Option Binary64 :=
  let result := nearest (decide (numerator < 0)) (numerator.natAbs * Nat.pow 2 1074) count
  if result.isFinite then some result else none

def ofInt? (n : Int) : Option Binary64 := ofRatio? n 1

def equal : Binary64 → Binary64 → Bool
  | .finite s a, .finite t b => signedUnits s a == signedUnits t b
  | .infinite s, .infinite t => s == t
  | _, _ => false

def equalInt : Binary64 → Int → Bool
  | .finite s a, n => signedUnits s a == n * (Nat.pow 2 1074 : Nat)
  | _, _ => false

end Binary64

end Straightedge
