import Straightedge.Vocabulary

namespace Straightedge

-- The offset counts the characters in front of the token, so its numeral is never too long to be written.
structure Token where
  category : Category
  value : String
  offset : Int
deriving DecidableEq

structure Snapshot where
  offset : Int
  value : String
deriving DecidableEq

def Token.snapshot (token : Token) : Snapshot := ⟨token.offset, token.value⟩

end Straightedge
