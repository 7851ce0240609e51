import Straightedge.Token.Cursor

namespace Straightedge

-- The consumed tokens are kept with the last one first.
structure Reader where
  consumed : List Token
  remaining : List Token
deriving DecidableEq

namespace Reader

def ofTokens (tokens : List Token) : Reader := ⟨[], tokens⟩

def toList (reader : Reader) : List Token := reader.consumed.reverse ++ reader.remaining

def position (reader : Reader) : Nat := reader.consumed.length

def hasNext (reader : Reader) : Bool := !reader.remaining.isEmpty

def next (reader : Reader) : Except Exhausted Token × Reader :=
  match reader.remaining with
  | [] => (.error .tokens, reader)
  | token :: rest => (.ok token, ⟨token :: reader.consumed, rest⟩)

def peek (reader : Reader) : Except Exhausted Token :=
  match reader.remaining with
  | [] => .error .tokens
  | token :: _ => .ok token

def current? (reader : Reader) : Option Token := reader.consumed.head?

def snapshot (reader : Reader) : Snapshot :=
  match reader.current? with
  | some token => token.snapshot
  | none => ⟨0, ""⟩

def peekSnapshot (reader : Reader) : Snapshot :=
  match reader.remaining with
  | [] => reader.snapshot
  | token :: _ => token.snapshot

def peekValue? (reader : Reader) : Option String := reader.remaining.head?.map Token.value

@[simp] theorem next_to_list (reader : Reader) : reader.next.2.toList = reader.toList := by
  unfold next
  split <;> simp_all [toList]

end Reader

end Straightedge
