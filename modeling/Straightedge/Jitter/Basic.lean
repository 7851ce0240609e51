namespace Straightedge

structure Bounds where
  low : Int
  high : Int
deriving DecidableEq

structure Jitter where
  draw : Nat → Bounds → Int

namespace Jitter

def bounds : Bounds := ⟨1, 5⟩

def cycle (values : List Int) : Jitter where
  draw turn bounds := (values[turn % values.length]?).getD bounds.low

end Jitter

end Straightedge
