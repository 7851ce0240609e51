import Straightedge.Number.Literal
import Straightedge.Parse.Session

namespace Straightedge

inductive Mishap where
  | literal (cause : Literal.Refusal)
  | overflow (cause : Overflow)
  | zeroDivision
deriving DecidableEq

-- A literal that is refused or out of range counts as no number.
def Mishap.handled (attempt : Except Mishap (Option Number)) : Except Mishap (Option Number) :=
  match attempt with
  | .error (.literal _) => .ok none
  | .error (.overflow _) => .ok none
  | other => other

def Category.conversion? : Category → Option (String → Except Literal.Refusal Number)
  | .integerLiteral => some fun text => Number.integer <$> Literal.integer text
  | .fractionalLiteral => some fun text => Number.real <$> Literal.real text
  | _ => none

def Number.admitted (value : Number) : Except Overflow (Option Number) := do
  if ← value.finite then return some value else return none

def Token.admitted (token : Token) (convert : String → Except Literal.Refusal Number) :
    Except Mishap (Option Number) := do
  let value ← (convert token.value).mapError .literal
  value.admitted.mapError .overflow

def Token.number? (token : Token) : Option Number :=
  match token.category.conversion? with
  | none => none
  | some convert => (Mishap.handled (token.admitted convert)).toOption.join

theorem Number.handled_admitted (value : Number) :
    Mishap.handled (value.admitted.mapError .overflow) = .ok ((some value).filter Number.isFinite) := by
  rw [Number.admitted, Option.filter_some]
  cases value with
  | integer n =>
      rw [Number.finite_integer]
      generalize (Number.integer n).isFinite = inRange
      cases inRange <;> rfl
  | real value =>
      rw [Number.finite_real, Number.isFinite]
      generalize value.isFinite = finite
      cases finite <;> rfl

theorem Token.handled_admitted (token : Token) (convert : String → Except Literal.Refusal Number) :
    Mishap.handled (token.admitted convert) = .ok ((convert token.value).toOption.filter Number.isFinite) := by
  rw [Token.admitted]
  cases convert token.value with
  | error cause => rfl
  | ok value => exact value.handled_admitted

theorem Token.number_filtered (token : Token) :
    token.number? = Option.filter Number.isFinite (match token.category with
      | .integerLiteral => (Literal.integer? token.value).map Number.integer
      | .fractionalLiteral => (Literal.real? token.value).map Number.real
      | _ => none) := by
  rw [Token.number?]
  cases token.category with
  | integerLiteral =>
      have same : (Number.integer <$> Literal.integer token.value).toOption =
          (Literal.integer? token.value).map Number.integer := by
        rw [Literal.integer?]
        cases Literal.integer token.value <;> rfl
      dsimp only [Category.conversion?]
      rw [Token.handled_admitted, same, Except.toOption, Option.join_some]
  | fractionalLiteral =>
      have same : (Number.real <$> Literal.real token.value).toOption =
          (Literal.real? token.value).map Number.real := by
        rw [Literal.real]
        cases Literal.real? token.value <;> rfl
      dsimp only [Category.conversion?]
      rw [Token.handled_admitted, same, Except.toOption, Option.join_some]
  | _ => rfl

namespace Rule

def number : Rule Number := do
  let token ← take none none
  match token.number? with
  | some value => return value
  | none => fail .number token.snapshot

def coords : Rule (Coords Number) := do
  let _ ← separator Vocabulary.opening
  let x ← number
  let _ ← separator Vocabulary.comma
  let y ← number
  let _ ← separator Vocabulary.closing
  return ⟨x, y⟩

def average : Rule (Coords Number) := fun session => lift session.table.average session

def moved (jitter : Jitter) (value : Number) : Rule Number := do
  let offset ← draw jitter
  lift (value.add (.integer offset))

def inferred (jitter : Jitter) : Rule (Coords Number) := do
  let near ← average
  let x ← moved jitter near.x
  let y ← moved jitter near.y
  return ⟨x, y⟩

def find? (name : String) : Rule (Option (Coords Number)) := fun session =>
  .ok (session.table.find? name) session

def resolve (jitter : Jitter) (name : String) : Rule (Coords Number) := do
  if (← peekValue?) = some Vocabulary.opening then coords
  else match ← find? name with
    | some known => return known
    | none =>
        let new ← inferred jitter
        note (.inferred name new)
        return new

def front? : Rule (Option Token) := fun session =>
  .ok session.reader.remaining.head? session

-- What is neither keyword nor name is left alone.
def pointMark : Rule Unit := do
  match ← front? with
  | none => fail .pointDefinition (← snapshot)
  | some head =>
      if head.value = Keyword.point.spelling then
        let _ ← keyword .point
        return ()
      else if head.category = .identifier then return ()
      else fail .pointDefinition head.snapshot

def pointName : Rule String := do return (← take (some .identifier) none).value

def point (jitter : Jitter) : Rule (Point Number) := do
  pointMark
  let name ← pointName
  let place ← resolve jitter name
  record name place
  return ⟨name, place⟩

theorem Consumes.number : Consumes 1 number := by
  show Consumes (1 + 0) Rule.number
  refine Consumes.bind (Consumes.take none none) fun token => ?_
  split
  · exact Consumes.pure _
  · exact Consumes.fail _ _ _

theorem Consumes.coords : Consumes 5 coords :=
  Consumes.bind (Consumes.separator _) fun _ =>
    Consumes.bind Consumes.number fun _ =>
      Consumes.bind (Consumes.separator _) fun _ =>
        Consumes.bind Consumes.number fun _ =>
          Consumes.bind (Consumes.separator _) fun _ => Consumes.pure _

theorem Consumes.average : Consumes 0 average := by
  intro session value later done
  exact Consumes.lift session.table.average session value later done

theorem Consumes.moved (jitter : Jitter) (value : Number) : Consumes 0 (moved jitter value) :=
  Consumes.bind (Consumes.draw jitter) fun _ => Consumes.lift _

theorem Consumes.inferred (jitter : Jitter) : Consumes 0 (inferred jitter) :=
  Consumes.bind Consumes.average fun _ =>
    Consumes.bind (Consumes.moved jitter _) fun _ =>
      Consumes.bind (Consumes.moved jitter _) fun _ => Consumes.pure _

theorem Consumes.find (name : String) : Consumes 0 (find? name) := by
  intro session value later done
  cases done
  exact Nat.le_refl _

theorem Consumes.front : Consumes 0 front? := by
  intro session value later done
  cases done
  exact Nat.le_refl _

theorem Consumes.resolve (jitter : Jitter) (name : String) : Consumes 0 (resolve jitter name) := by
  show Consumes (0 + 0) (Rule.resolve jitter name)
  refine Consumes.bind Consumes.peek_value fun _ => ?_
  split
  · exact Consumes.coords.weaken (by decide)
  · show Consumes (0 + 0) _
    refine Consumes.bind (Consumes.find name) fun _ => ?_
    split
    · exact Consumes.pure _
    · exact Consumes.bind (Consumes.inferred jitter) fun _ =>
        Consumes.bind (Consumes.note _) fun _ => Consumes.pure _

theorem Consumes.point_mark : Consumes 0 pointMark := by
  show Consumes (0 + 0) Rule.pointMark
  refine Consumes.bind Consumes.front fun _ => ?_
  split
  · exact Consumes.bind Consumes.snapshot fun _ => Consumes.fail 0 _ _
  · split
    · exact (Consumes.bind (Consumes.keyword _) fun _ => Consumes.pure _).weaken (by decide)
    · split
      · exact Consumes.pure _
      · exact Consumes.fail _ _ _

theorem Consumes.point_name : Consumes 1 pointName :=
  Consumes.bind (Consumes.take _ _) fun _ => Consumes.pure _

theorem Consumes.point (jitter : Jitter) : Consumes 1 (point jitter) :=
  Consumes.bind Consumes.point_mark fun _ =>
    Consumes.bind Consumes.point_name fun name =>
      Consumes.bind (Consumes.resolve jitter name) fun place =>
        Consumes.bind (Consumes.record name place) fun _ => Consumes.pure _

end Rule

end Straightedge
