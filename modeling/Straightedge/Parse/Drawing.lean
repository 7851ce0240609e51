import Straightedge.Parse.Place

namespace Straightedge

abbrev Drawing := Task Number

namespace Rule

def path (jitter : Jitter) (extent : Extent) : Rule (Line Number) := do
  let _ ← keyword extent.keyword
  let start ← point jitter
  let stop ← point jitter
  return ⟨extent, start, stop⟩

def frontKeyword? : Rule (Option Keyword) := do
  return (← peekValue?).bind Keyword.ofSpelling?

def base (jitter : Jitter) : Rule (Line Number) := do
  match ← frontKeyword? with
  | some .line => path jitter .line
  | some .segment => path jitter .segment
  | _ => fail .baseName (← peekSnapshot)

def perpendicular (jitter : Jitter) : Rule (Figure Number) := do
  let _ ← keyword .perpendicular
  let apex ← point jitter
  let base ← base jitter
  return .perpendicular base apex

def triangle (jitter : Jitter) : Rule (Figure Number) := do
  let _ ← keyword .triangle
  let first ← point jitter
  let second ← point jitter
  let third ← point jitter
  return .triangle first second third

def figureOf (jitter : Jitter) : Keyword → Rule (Figure Number)
  | .point => return .point (← point jitter)
  | .line => return .line (← path jitter .line)
  | .segment => return .line (← path jitter .segment)
  | .perpendicular => perpendicular jitter
  | .triangle => triangle jitter

def figure (jitter : Jitter) : Rule (Figure Number) := do
  match ← frontKeyword? with
  | some word => figureOf jitter word
  | none => fail .objectName (← peekSnapshot)

def operator : Rule String := do return (← take (some .operator) none).value

def command (jitter : Jitter) : Rule (Command Number) := do
  let operator ← operator
  let object ← figure jitter
  let _ ← separator Vocabulary.terminator
  note (.command operator object.kind)
  return ⟨operator, object⟩

theorem Consumes.path (jitter : Jitter) (extent : Extent) : Consumes 3 (path jitter extent) :=
  Consumes.bind (Consumes.keyword _) fun _ =>
    Consumes.bind (Consumes.point jitter) fun _ =>
      Consumes.bind (Consumes.point jitter) fun _ => Consumes.pure _

theorem Consumes.front_keyword : Consumes 0 frontKeyword? :=
  Consumes.bind Consumes.peek_value fun _ => Consumes.pure _

theorem Consumes.base (jitter : Jitter) : Consumes 3 (base jitter) := by
  show Consumes (0 + 3) (Rule.base jitter)
  refine Consumes.bind Consumes.front_keyword fun _ => ?_
  split
  · exact Consumes.path jitter .line
  · exact Consumes.path jitter .segment
  · exact Consumes.bind Consumes.peek_snapshot fun _ => Consumes.fail 3 _ _

theorem Consumes.perpendicular (jitter : Jitter) : Consumes 5 (perpendicular jitter) :=
  Consumes.bind (Consumes.keyword _) fun _ =>
    Consumes.bind (Consumes.point jitter) fun _ =>
      Consumes.bind (Consumes.base jitter) fun _ => Consumes.pure _

theorem Consumes.triangle (jitter : Jitter) : Consumes 4 (triangle jitter) :=
  Consumes.bind (Consumes.keyword _) fun _ =>
    Consumes.bind (Consumes.point jitter) fun _ =>
      Consumes.bind (Consumes.point jitter) fun _ =>
        Consumes.bind (Consumes.point jitter) fun _ => Consumes.pure _

theorem Consumes.figure_of (jitter : Jitter) (word : Keyword) : Consumes 1 (figureOf jitter word) := by
  cases word with
  | point => exact Consumes.bind (Consumes.point jitter) fun _ => Consumes.pure _
  | line => exact (Consumes.bind (Consumes.path jitter _) fun _ => Consumes.pure _).weaken (by decide)
  | segment =>
    exact (Consumes.bind (Consumes.path jitter _) fun _ => Consumes.pure _).weaken (by decide)
  | perpendicular => exact (Consumes.perpendicular jitter).weaken (by decide)
  | triangle => exact (Consumes.triangle jitter).weaken (by decide)

theorem Consumes.figure (jitter : Jitter) : Consumes 1 (figure jitter) := by
  show Consumes (0 + 1) (Rule.figure jitter)
  refine Consumes.bind Consumes.front_keyword fun _ => ?_
  split
  · exact Consumes.figure_of jitter _
  · exact Consumes.bind Consumes.peek_snapshot fun _ => Consumes.fail 1 _ _

theorem Consumes.operator : Consumes 1 operator :=
  Consumes.bind (Consumes.take _ _) fun _ => Consumes.pure _

theorem Consumes.command (jitter : Jitter) : Consumes 3 (command jitter) :=
  Consumes.bind Consumes.operator fun _ =>
    Consumes.bind (Consumes.figure jitter) fun _ =>
      Consumes.bind (Consumes.separator _) fun _ =>
        Consumes.bind (Consumes.note _) fun _ => Consumes.pure _

def commands (jitter : Jitter) (session : Session) : EStateM.Result Fault Session Drawing :=
  if session.reader.hasNext then
    match _read : command jitter session with
    | .error fault later => .error fault later
    | .ok first later =>
        match commands jitter later with
        | .error fault last => .error fault last
        | .ok rest last => .ok (first :: rest) last
  else .ok [] session
termination_by session.reader.remaining.length
decreasing_by
  have shorter := Consumes.command jitter session first later _read
  omega

def tableSize : Rule Nat := fun session => .ok session.table.length session

def drawing (jitter : Jitter) : Rule Drawing := do
  let commands ← commands jitter
  let names ← tableSize
  note (.finished commands.length names)
  return commands

end Rule

end Straightedge
