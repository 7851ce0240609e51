import Straightedge.Jitter.Basic
import Straightedge.SyntaxError
import Straightedge.Table
import Straightedge.Token.Reader

namespace Straightedge

inductive Event where
  | command (operator kind : String)
  | inferred (name : String) (coords : Coords Number)
  | finished (commands names : Nat)
deriving DecidableEq

-- Requests and events are in the order in which they came up.
structure Session where
  reader : Reader
  table : Table
  requests : List Bounds
  journal : List Event
deriving DecidableEq

inductive Fault where
  | violation (error : SyntaxError)
  | overflow (cause : Overflow)
deriving DecidableEq

abbrev Rule := EStateM Fault Session

namespace Session

-- There must be a token to start with.
def start (tokens : List Token) : Except SyntaxError Session :=
  let reader := Reader.ofTokens tokens
  if reader.hasNext then .ok ⟨reader, [], [], []⟩
  else .error (.unmet .initial reader.snapshot)

end Session

namespace Rule

variable {α β : Type}

def fail (expected : Expectation) (found : Snapshot) : Rule α := fun session =>
  .error (.violation (.unmet expected found)) session

def lift (result : Except Overflow α) : Rule α := fun session =>
  match result with
  | .ok value => .ok value session
  | .error cause => .error (.overflow cause) session

def snapshot : Rule Snapshot := fun session => .ok session.reader.snapshot session

def peekSnapshot : Rule Snapshot := fun session => .ok session.reader.peekSnapshot session

def peekValue? : Rule (Option String) := fun session => .ok session.reader.peekValue? session

def note (event : Event) : Rule Unit := fun session =>
  .ok () { session with journal := session.journal ++ [event] }

def record (name : String) (coords : Coords Number) : Rule Unit := fun session =>
  .ok () { session with table := session.table.record name coords }

def draw (jitter : Jitter) : Rule Int := fun session =>
  .ok (jitter.draw session.requests.length Jitter.bounds)
    { session with requests := session.requests ++ [Jitter.bounds] }

-- A token that is refused is consumed all the same.
def take (category : Option Category) (value : Option String) : Rule Token := fun session =>
  match session.reader.next with
  | (.error _, _) =>
      .error (.violation (.unmet (.token category value) session.reader.snapshot)) session
  | (.ok token, reader) =>
      if category.all (· == token.category) && value.all (· == token.value) then
        .ok token { session with reader }
      else .error (.violation (.unmet (.token category value) token.snapshot)) { session with reader }

def keyword (word : Keyword) : Rule Token := take (some .keyword) (some word.spelling)

def separator (mark : String) : Rule Token := take (some .separator) (some mark)

-- Every rule that succeeds consumes a number of tokens that can be told in advance.

def Consumes (count : Nat) (rule : Rule α) : Prop :=
  ∀ session value later, rule session = .ok value later →
    later.reader.remaining.length + count ≤ session.reader.remaining.length

theorem Consumes.weaken {count less : Nat} {rule : Rule α} (consumes : Consumes count rule)
    (fewer : less ≤ count) : Consumes less rule := by
  intro session value later done
  have bound := consumes session value later done
  omega

theorem Consumes.pure (value : α) : Consumes 0 (pure value : Rule α) := by
  intro session result later done
  cases done
  exact Nat.le_refl _

theorem Consumes.bind {first second : Nat} {rule : Rule α} {next : α → Rule β}
    (head : Consumes first rule) (tail : ∀ value, Consumes second (next value)) :
    Consumes (first + second) (rule >>= next) := by
  intro session result later done
  simp only [Bind.bind, EStateM.bind] at done
  split at done
  · rename_i value between passed
    have step := head session value between passed
    have rest := tail value between result later done
    omega
  · cases done

theorem Consumes.fail (count : Nat) (expected : Expectation) (found : Snapshot) :
    Consumes count (fail expected found : Rule α) := by
  intro session value later done
  cases done

theorem Consumes.lift (result : Except Overflow α) : Consumes 0 (lift result) := by
  intro session value later done
  cases result <;> cases done
  exact Nat.le_refl _

theorem Consumes.snapshot : Consumes 0 snapshot := by
  intro session value later done
  cases done
  exact Nat.le_refl _

theorem Consumes.peek_snapshot : Consumes 0 peekSnapshot := by
  intro session value later done
  cases done
  exact Nat.le_refl _

theorem Consumes.peek_value : Consumes 0 peekValue? := by
  intro session value later done
  cases done
  exact Nat.le_refl _

theorem Consumes.note (event : Event) : Consumes 0 (note event) := by
  intro session value later done
  cases done
  exact Nat.le_refl _

theorem Consumes.record (name : String) (coords : Coords Number) :
    Consumes 0 (record name coords) := by
  intro session value later done
  cases done
  exact Nat.le_refl _

theorem Consumes.draw (jitter : Jitter) : Consumes 0 (draw jitter) := by
  intro session value later done
  cases done
  exact Nat.le_refl _

theorem Consumes.take (category : Option Category) (value : Option String) :
    Consumes 1 (take category value) := by
  intro session token later done
  simp only [Rule.take, Reader.next] at done
  split at done
  · cases done
  · rename_i read
    split at read <;> cases read
    rename_i left
    split at done <;> cases done
    simp [left]

theorem Consumes.keyword (word : Keyword) : Consumes 1 (keyword word) := Consumes.take _ _

theorem Consumes.separator (mark : String) : Consumes 1 (separator mark) := Consumes.take _ _

end Rule

end Straightedge
