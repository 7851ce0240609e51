import Straightedge.Proofs.Parse.Drawing

namespace Straightedge

-- How reading breaks off if each look at tokens, names and numbers may fail in its own way.
inductive Escape where
  | violation (error : SyntaxError)
  | exhausted (cause : Exhausted)
  | unknown (name : String)
  | mishap (cause : Mishap)

def Escape.ofFault : Fault → Escape
  | .violation error => .violation error
  | .overflow cause => .mishap (.overflow cause)

def Number.dividedStrictly (value : Number) (count : Nat) : Except Mishap Number :=
  if count = 0 then .error .zeroDivision else (value.dividedBy count).mapError .overflow

def Table.strictAverageFrom (count : Nat) (average : Coords Number) : Table → Except Mishap (Coords Number)
  | [] => .ok average
  | (_, coords) :: rest => do
      let x ← (← (average.x.add coords.x).mapError .overflow).dividedStrictly (count + 1)
      let y ← (← (average.y.add coords.y).mapError .overflow).dividedStrictly (count + 1)
      strictAverageFrom (count + 1) ⟨x, y⟩ rest

abbrev Strict := EStateM Escape Session

namespace Strict

variable {α β : Type}

def ofRule (rule : Rule α) : Strict α := fun session =>
  match rule session with
  | .ok value later => .ok value later
  | .error fault later => .error (.ofFault fault) later

def lift (result : Except Mishap α) : Strict α := fun session =>
  match result with
  | .ok value => .ok value session
  | .error cause => .error (.mishap cause) session

def hasNext : Strict Bool := fun session => .ok session.reader.hasNext session

def next : Strict Token := fun session =>
  match session.reader.next with
  | (.ok token, reader) => .ok token { session with reader }
  | (.error cause, reader) => .error (.exhausted cause) { session with reader }

def peek : Strict Token := fun session =>
  match session.reader.peek with
  | .ok token => .ok token session
  | .error cause => .error (.exhausted cause) session

def knows (name : String) : Strict Bool := fun session => .ok (session.table.find? name).isSome session

def lookup (name : String) : Strict (Coords Number) := fun session =>
  match session.table.find? name with
  | some coords => .ok coords session
  | none => .error (.unknown name) session

def fail (expected : Expectation) (found : Snapshot) : Strict α := ofRule (Rule.fail expected found)

def snapshot : Strict Snapshot := ofRule Rule.snapshot

def peekSnapshot : Strict Snapshot := do
  if ← hasNext then return (← peek).snapshot else snapshot

def peekValue? : Strict (Option String) := do
  if ← hasNext then return some (← peek).value else return none

def front? : Strict (Option Token) := do
  if ← hasNext then return some (← peek) else return none

def take (category : Option Category) (value : Option String) : Strict Token := do
  if ← hasNext then
    let token ← next
    if category.all (· == token.category) && value.all (· == token.value) then return token
    else fail (.token category value) token.snapshot
  else fail (.token category value) (← snapshot)

def keyword (word : Keyword) : Strict Token := take (some .keyword) (some word.spelling)

def separator (mark : String) : Strict Token := take (some .separator) (some mark)

def converted? (token : Token) : Strict (Option Number) :=
  match token.category.conversion? with
  | none => return none
  | some convert => lift (Mishap.handled (token.admitted convert))

def number : Strict Number := do
  let token ← take none none
  match ← converted? token with
  | some value => return value
  | none => fail .number token.snapshot

def coords : Strict (Coords Number) := do
  let _ ← separator Vocabulary.opening
  let x ← number
  let _ ← separator Vocabulary.comma
  let y ← number
  let _ ← separator Vocabulary.closing
  return ⟨x, y⟩

def average : Strict (Coords Number) := fun session =>
  lift (session.table.strictAverageFrom 0 ⟨.integer 0, .integer 0⟩) session

def moved (jitter : Jitter) (value : Number) : Strict Number := do
  let offset ← ofRule (Rule.draw jitter)
  lift ((value.add (.integer offset)).mapError .overflow)

def inferred (jitter : Jitter) : Strict (Coords Number) := do
  let near ← average
  let x ← moved jitter near.x
  let y ← moved jitter near.y
  return ⟨x, y⟩

def resolve (jitter : Jitter) (name : String) : Strict (Coords Number) := do
  if (← peekValue?) = some Vocabulary.opening then coords
  else if ← knows name then lookup name
  else
    let new ← inferred jitter
    ofRule (Rule.note (.inferred name new))
    return new

def pointMark : Strict Unit := do
  match ← front? with
  | none => fail .pointDefinition (← snapshot)
  | some head =>
      if head.value = Keyword.point.spelling then
        let _ ← keyword .point
        return ()
      else if head.category = .identifier then return ()
      else fail .pointDefinition head.snapshot

def pointName : Strict String := do return (← take (some .identifier) none).value

def point (jitter : Jitter) : Strict (Point Number) := do
  pointMark
  let name ← pointName
  let place ← resolve jitter name
  ofRule (Rule.record name place)
  return ⟨name, place⟩

def path (jitter : Jitter) (extent : Extent) : Strict (Line Number) := do
  let _ ← keyword extent.keyword
  let start ← point jitter
  let stop ← point jitter
  return ⟨extent, start, stop⟩

def frontKeyword? : Strict (Option Keyword) := do
  return (← peekValue?).bind Keyword.ofSpelling?

def base (jitter : Jitter) : Strict (Line Number) := do
  match ← frontKeyword? with
  | some .line => path jitter .line
  | some .segment => path jitter .segment
  | _ => fail .baseName (← peekSnapshot)

def perpendicular (jitter : Jitter) : Strict (Figure Number) := do
  let _ ← keyword .perpendicular
  let apex ← point jitter
  let base ← base jitter
  return .perpendicular base apex

def triangle (jitter : Jitter) : Strict (Figure Number) := do
  let _ ← keyword .triangle
  let first ← point jitter
  let second ← point jitter
  let third ← point jitter
  return .triangle first second third

def figureOf (jitter : Jitter) : Keyword → Strict (Figure Number)
  | .point => return .point (← point jitter)
  | .line => return .line (← path jitter .line)
  | .segment => return .line (← path jitter .segment)
  | .perpendicular => perpendicular jitter
  | .triangle => triangle jitter

def figure (jitter : Jitter) : Strict (Figure Number) := do
  match ← frontKeyword? with
  | some word => figureOf jitter word
  | none => fail .objectName (← peekSnapshot)

def operator : Strict String := do return (← take (some .operator) none).value

def command (jitter : Jitter) : Strict (Command Number) := do
  let operator ← operator
  let object ← figure jitter
  let _ ← separator Vocabulary.terminator
  ofRule (Rule.note (.command operator object.kind))
  return ⟨operator, object⟩

-- Every read is behind a look at what is left, every look-up behind one at the names.

@[simp] theorem of_rule_pure (value : α) : ofRule (pure value) = pure value := rfl

@[simp] theorem of_rule_bind (rule : Rule α) (next : α → Rule β) :
    ofRule (rule >>= next) = ofRule rule >>= fun value => ofRule (next value) := by
  funext session
  simp only [ofRule, bind, EStateM.bind]
  cases rule session <;> rfl

@[simp] theorem of_rule_map (put : α → β) (rule : Rule α) : ofRule (put <$> rule) = put <$> ofRule rule := by
  rw [map_eq_pure_bind, map_eq_pure_bind, of_rule_bind]
  rfl

@[simp] theorem fail_guarded (expected : Expectation) (found : Snapshot) :
    fail expected found = ofRule (Rule.fail expected found : Rule α) := rfl

@[simp] theorem snapshot_guarded : snapshot = ofRule Rule.snapshot := rfl

@[simp] theorem lift_guarded (result : Except Overflow α) : lift (result.mapError .overflow) = ofRule (Rule.lift result) := by
  cases result <;> rfl

@[simp] theorem peek_snapshot_guarded : peekSnapshot = ofRule Rule.peekSnapshot := by
  funext ⟨⟨_, remaining⟩, _, _, _⟩
  cases remaining <;> rfl

@[simp] theorem peek_value_guarded : peekValue? = ofRule Rule.peekValue? := by
  funext ⟨⟨_, remaining⟩, _, _, _⟩
  cases remaining <;> rfl

@[simp] theorem take_guarded (category : Option Category) (value : Option String) :
    take category value = ofRule (Rule.take category value) := by
  funext ⟨⟨consumed, remaining⟩, table, requests, journal⟩
  -- At the end of the tokens neither of the two reads on; before it reading on gives the token in front.
  cases remaining with
  | nil => rfl
  | cons token rest =>
      by_cases fits : (category.all (· == token.category) && value.all (· == token.value)) = true
      · simp [take, hasNext, next, ofRule, Rule.take, Reader.hasNext, Reader.next, fits, bind,
          EStateM.bind, pure, EStateM.pure]
      · simp [take, hasNext, next, ofRule, Rule.take, Rule.fail, Reader.hasNext, Reader.next, fits,
          bind, EStateM.bind]

@[simp] theorem keyword_guarded (word : Keyword) : keyword word = ofRule (Rule.keyword word) := take_guarded _ _

@[simp] theorem separator_guarded (mark : String) : separator mark = ofRule (Rule.separator mark) := take_guarded _ _

-- What the handler lets through is no failure.
@[simp] theorem converted_guarded (token : Token) : converted? token = pure token.number? := by
  rw [converted?, Token.number?]
  cases token.category.conversion? with
  | none => rfl
  | some convert =>
      dsimp only
      rw [token.handled_admitted convert]
      rfl

@[simp] theorem number_guarded : number = ofRule Rule.number := by
  rw [number, Rule.number, take_guarded, of_rule_bind]
  congr 1
  funext token
  rw [converted_guarded, pure_bind]
  cases token.number? <;> rfl

@[simp] theorem coords_guarded : coords = ofRule Rule.coords := by
  simp [coords, Rule.coords]

theorem divided_strictly (value : Number) (count : Nat) :
    value.dividedStrictly (count + 1) = (value.dividedBy (count + 1)).mapError .overflow :=
  if_neg (Nat.succ_ne_zero count)

theorem map_error_bind {ε δ : Type} (first : Except ε α) (next : α → Except ε β) (put : ε → δ) :
    (first >>= next).mapError put = first.mapError put >>= fun value => (next value).mapError put := by
  cases first <;> rfl

theorem strict_average_from (count : Nat) (average : Coords Number) (table : Table) :
    Table.strictAverageFrom count average table = (Table.averageFrom count average table).mapError .overflow := by
  induction table generalizing count average with
  | nil => rfl
  | cons entry rest ih =>
      -- The count is raised before it divides, so the check for zero falls away on both axes.
      rw [Table.strictAverageFrom, Table.averageFrom]
      simp only [divided_strictly, map_error_bind, ih]

@[simp] theorem average_guarded : average = ofRule Rule.average := by
  funext session
  rw [average, strict_average_from, lift_guarded]
  rfl

@[simp] theorem moved_guarded (jitter : Jitter) (value : Number) : moved jitter value = ofRule (Rule.moved jitter value) := by
  simp [moved, Rule.moved]

@[simp] theorem inferred_guarded (jitter : Jitter) : inferred jitter = ofRule (Rule.inferred jitter) := by
  simp [inferred, Rule.inferred]

theorem find_guarded (name : String) (new : Strict (Coords Number)) :
    (do if ← knows name then lookup name else new) =
      (do match ← ofRule (Rule.find? name) with
        | some known => return known
        | none => new) := by
  funext session
  simp only [knows, ofRule, Rule.find?, bind, EStateM.bind]
  cases found : session.table.find? name with
  | none => rfl
  | some known => simp only [lookup, Option.isSome_some, if_true, found, pure, EStateM.pure]

@[simp] theorem front_guarded : front? = ofRule Rule.front? := by
  funext ⟨⟨_, remaining⟩, _, _, _⟩
  cases remaining <;> rfl

@[simp] theorem resolve_guarded (jitter : Jitter) (name : String) : resolve jitter name = ofRule (Rule.resolve jitter name) := by
  rw [resolve, Rule.resolve, of_rule_bind, peek_value_guarded, find_guarded]
  congr 1
  funext value
  split
  · exact coords_guarded
  · rw [of_rule_bind]
    congr 1
    funext found
    cases found <;> simp

@[simp] theorem point_mark_guarded : pointMark = ofRule Rule.pointMark := by
  rw [pointMark, Rule.pointMark, front_guarded, of_rule_bind]
  congr 1
  funext front
  cases front with
  | none => simp
  | some head =>
      dsimp only
      split
      · simp
      · split <;> simp

@[simp] theorem point_name_guarded : pointName = ofRule Rule.pointName := by
  simp [pointName, Rule.pointName]

@[simp] theorem point_guarded (jitter : Jitter) : point jitter = ofRule (Rule.point jitter) := by
  simp [point, Rule.point]

@[simp] theorem path_guarded (jitter : Jitter) (extent : Extent) : path jitter extent = ofRule (Rule.path jitter extent) := by
  simp [path, Rule.path]

@[simp] theorem front_keyword_guarded : frontKeyword? = ofRule Rule.frontKeyword? := by
  simp [frontKeyword?, Rule.frontKeyword?]

@[simp] theorem base_guarded (jitter : Jitter) : base jitter = ofRule (Rule.base jitter) := by
  rw [base, Rule.base, of_rule_bind, front_keyword_guarded]
  congr 1
  funext word
  split <;> simp

@[simp] theorem perpendicular_guarded (jitter : Jitter) : perpendicular jitter = ofRule (Rule.perpendicular jitter) := by
  simp [perpendicular, Rule.perpendicular]

@[simp] theorem triangle_guarded (jitter : Jitter) : triangle jitter = ofRule (Rule.triangle jitter) := by
  simp [triangle, Rule.triangle]

@[simp] theorem figure_of_guarded (jitter : Jitter) (word : Keyword) : figureOf jitter word = ofRule (Rule.figureOf jitter word) := by
  cases word <;> simp [figureOf, Rule.figureOf]

@[simp] theorem figure_guarded (jitter : Jitter) : figure jitter = ofRule (Rule.figure jitter) := by
  rw [figure, Rule.figure, of_rule_bind, front_keyword_guarded]
  congr 1
  funext word
  cases word <;> simp

@[simp] theorem operator_guarded : operator = ofRule Rule.operator := by
  simp [operator, Rule.operator]

@[simp] theorem command_guarded (jitter : Jitter) : command jitter = ofRule (Rule.command jitter) := by
  simp [command, Rule.command]

-- Each command consumes tokens, as it does where reading on cannot fail.
theorem command_shorter (jitter : Jitter) (session later : Session) (first : Command Number)
    (read : command jitter session = .ok first later) :
    later.reader.remaining.length < session.reader.remaining.length := by
  rw [command_guarded, ofRule] at read
  split at read
  · rename_i found
    cases read
    have fewer := Rule.Consumes.command jitter _ _ _ found
    omega
  · cases read

def commands (jitter : Jitter) (session : Session) : EStateM.Result Escape Session Drawing :=
  if session.reader.hasNext then
    match _read : command jitter session with
    | .error escape later => .error escape later
    | .ok first later =>
        match commands jitter later with
        | .error escape last => .error escape last
        | .ok rest last => .ok (first :: rest) last
  else .ok [] session
termination_by session.reader.remaining.length
decreasing_by exact command_shorter jitter session later first _read

def drawing (jitter : Jitter) : Strict Drawing := do
  let commands ← commands jitter
  let names ← ofRule Rule.tableSize
  ofRule (Rule.note (.finished commands.length names))
  return commands

theorem commands_turn (jitter : Jitter) (session : Session) (more : session.reader.hasNext = true) :
    commands jitter session =
      (do
        let first ← command jitter
        let rest ← commands jitter
        return first :: rest : Strict Drawing) session := by
  rw [commands, if_pos more]
  simp only [bind, EStateM.bind, pure, EStateM.pure]
  split
  · rename_i stopped
    rw [stopped]
  · rename_i first later read
    rw [read]
    dsimp only
    cases commands jitter later <;> rfl

theorem bind_same (rule : Strict α) (next next' : α → Strict β) (session : Session)
    (same : ∀ value later, rule session = .ok value later → next value later = next' value later) :
    (rule >>= next) session = (rule >>= next') session := by
  simp only [bind, EStateM.bind]
  cases passed : rule session with
  | ok value later => exact same value later passed
  | error => rfl

theorem of_rule_commands (jitter : Jitter) (session : Session) (more : session.reader.remaining ≠ []) :
    ofRule (Rule.commands jitter) session =
      (do
        let first ← command jitter
        let rest ← ofRule (Rule.commands jitter)
        return first :: rest : Strict Drawing) session := by
  have parts : ofRule (do
        let first ← Rule.command jitter
        let rest ← Rule.commands jitter
        return first :: rest : Rule Drawing) =
      (do
        let first ← command jitter
        let rest ← ofRule (Rule.commands jitter)
        return first :: rest) := by
    rw [of_rule_bind, command_guarded]
    exact congrArg _ (funext fun _ => of_rule_bind (Rule.commands jitter) _)
  rw [← parts]
  simp only [ofRule, Rule.commands_step jitter session more]

theorem commands_at (jitter : Jitter) (session : Session) :
    commands jitter session = ofRule (Rule.commands jitter) session := by
  by_cases ended : session.reader.remaining = []
  · have none : ¬session.reader.hasNext = true := by simp [Reader.hasNext, ended]
    simp only [ofRule, Rule.commands_end jitter session ended]
    rw [commands, if_neg none]
  · have more : session.reader.hasNext = true := by simpa [Reader.hasNext] using ended
    rw [commands_turn jitter session more, of_rule_commands jitter session ended]
    refine bind_same _ _ _ session fun first later read => ?_
    -- The command consumed tokens, so the induction is on what is left of them.
    have shorter := command_shorter jitter session later first read
    simp only [bind, EStateM.bind, commands_at jitter later]
termination_by session.reader.remaining.length

@[simp] theorem commands_guarded (jitter : Jitter) : commands jitter = ofRule (Rule.commands jitter) :=
  funext (commands_at jitter)

theorem drawing_guarded (jitter : Jitter) : drawing jitter = ofRule (Rule.drawing jitter) := by
  rw [drawing, Rule.drawing, commands_guarded, of_rule_bind (Rule.commands jitter)]
  simp

end Strict

end Straightedge
