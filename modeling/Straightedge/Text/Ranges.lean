namespace Straightedge.Text

-- The first and the last code point of each range, in ascending order.
abbrev Ranges := List (Nat × Nat)

def Ranges.covers : Ranges → Nat → Bool
  | [], _ => false
  | (first, last) :: rest, code =>
      if code < first then false else decide (code ≤ last) || Ranges.covers rest code

end Straightedge.Text
