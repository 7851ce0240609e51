import Straightedge.Proofs.Parse.Asked
import Straightedge.Proofs.Parse.Failure
import Straightedge.Proofs.Token.Split

namespace Straightedge

-- How reading can break off once a picked rule that is refused at its beginning counts as a failure of its own.
inductive Slip where
  | fault (fault : Fault)
  | misled (fault : Fault)

abbrev Watched := EStateM Slip Session

namespace Watched

variable {α β : Type}

def plain (rule : Rule α) : Watched α := EStateM.adaptExcept .fault rule

def opening (rule : Rule α) : Watched α := EStateM.adaptExcept .misled rule

def coords : Watched (Coords Number) := do
  let _ ← opening (Rule.separator Vocabulary.opening)
  let x ← plain Rule.number
  let _ ← plain (Rule.separator Vocabulary.comma)
  let y ← plain Rule.number
  let _ ← plain (Rule.separator Vocabulary.closing)
  return ⟨x, y⟩

def resolve (jitter : Jitter) (name : String) : Watched (Coords Number) := do
  if (← plain Rule.peekValue?) = some Vocabulary.opening then coords
  else plain (Rule.unwritten jitter name)

def pointMark : Watched Unit := do
  match ← plain Rule.front? with
  | none => plain (do Rule.fail .pointDefinition (← Rule.snapshot))
  | some head =>
      if head.value = Keyword.point.spelling then
        let _ ← opening (Rule.keyword .point)
        return ()
      else if head.category = .identifier then return ()
      else plain (Rule.fail .pointDefinition head.snapshot)

def point (jitter : Jitter) : Watched (Point Number) := do
  pointMark
  let name ← plain Rule.pointName
  let place ← resolve jitter name
  plain (Rule.record name place)
  return ⟨name, place⟩

def path (jitter : Jitter) (extent : Extent) : Watched (Line Number) := do
  let _ ← opening (Rule.keyword extent.keyword)
  let start ← point jitter
  let stop ← point jitter
  return ⟨extent, start, stop⟩

def base (jitter : Jitter) : Watched (Line Number) := do
  match ← plain Rule.frontKeyword? with
  | some .line => path jitter .line
  | some .segment => path jitter .segment
  | _ => plain (do Rule.fail .baseName (← Rule.peekSnapshot))

def perpendicular (jitter : Jitter) : Watched (Figure Number) := do
  let _ ← opening (Rule.keyword .perpendicular)
  let apex ← point jitter
  let base ← base jitter
  return .perpendicular base apex

def triangle (jitter : Jitter) : Watched (Figure Number) := do
  let _ ← opening (Rule.keyword .triangle)
  let first ← point jitter
  let second ← point jitter
  let third ← point jitter
  return .triangle first second third

def figureOf (jitter : Jitter) : Keyword → Watched (Figure Number)
  | .point => return .point (← point jitter)
  | .line => return .line (← path jitter .line)
  | .segment => return .line (← path jitter .segment)
  | .perpendicular => perpendicular jitter
  | .triangle => triangle jitter

def figure (jitter : Jitter) : Watched (Figure Number) := do
  match ← plain Rule.frontKeyword? with
  | some word => figureOf jitter word
  | none => plain (do Rule.fail .objectName (← Rule.peekSnapshot))

def command (jitter : Jitter) : Watched (Command Number) := do
  let operator ← plain Rule.operator
  let object ← figure jitter
  let _ ← plain (Rule.separator Vocabulary.terminator)
  plain (Rule.note (.command operator object.kind))
  return ⟨operator, object⟩

end Watched

-- What a source is told to have lacked: no keyword and no opening bracket.

def usual : List Expectation :=
  [.validCharacter, .initial, .token (some .operator) none, .objectName, .baseName, .pointDefinition,
    .token (some .identifier) none, .number, .token none none, .token (some .separator) (some Vocabulary.comma),
    .token (some .separator) (some Vocabulary.closing), .token (some .separator) (some Vocabulary.terminator)]

def usualTexts : List String :=
  ["valid character", "initial", "Operator <>",
    "name of a graphical object (POINT, LINE, SEGMENT, PERPENDICULAR, TRIANGLE)", "LINE or SEGMENT", "point definition",
    "Identifier <>", "any number", " <>", "Separator <,>", "Separator <)>", "Separator <.>"]

theorem usual_texts : usual.map Expectation.text = usualTexts := by decide +kernel

theorem usual_bare : ∀ expected ∈ usual, expected.text = " <>" → expected = .token none none := by decide +kernel

theorem usual_spared : ∀ text ∈ usualTexts, ¬"KeyWord <".toList <+: text.toList ∧ text ≠ "Separator <(>" := by
  decide +kernel

inductive Usual : Fault → Prop where
  | violation (error : SyntaxError) (expected : error.expected ∈ usual) : Usual (.violation error)
  | overflow (cause : Overflow) : Usual (.overflow cause)

-- The watched rule does what the rule does: it is not misled.
inductive Trusts {α : Type} (session : Session) (watched : Watched α) (rule : Rule α) : Prop where
  | passed (value : α) (later : Session) (done : rule session = .ok value later) (also : watched session = .ok value later)
      (left : Disciplined later.reader.remaining)
  | stopped (fault : Fault) (later : Session) (failed : rule session = .error fault later)
      (also : watched session = .error (.fault fault) later) (usual : Usual fault)

def Trusty {α : Type} (watched : Watched α) (rule : Rule α) : Prop :=
  ∀ session, Disciplined session.reader.remaining → Trusts session watched rule

namespace Rule

variable {α β : Type}

theorem trusts_same (session : Session) (watched : Watched α) (rule : Rule α) (trusts : Trusts session watched rule) :
    watched session = Watched.plain rule session := by
  cases trusts with
  | passed value later done also => rw [also, Watched.plain, EStateM.adaptExcept, done]
  | stopped fault later failed also => rw [also, Watched.plain, EStateM.adaptExcept, failed]

theorem trusts_passed (session later : Session) (rule : Rule α) (value : α) (done : rule session = .ok value later)
    (left : Disciplined later.reader.remaining) : Trusts session (Watched.plain rule) rule :=
  .passed value later done (by rw [Watched.plain, EStateM.adaptExcept, done]) left

theorem trusts_stopped (session later : Session) (rule : Rule α) (fault : Fault) (failed : rule session = .error fault later)
    (usual : Usual fault) : Trusts session (Watched.plain rule) rule :=
  .stopped fault later failed (by rw [Watched.plain, EStateM.adaptExcept, failed]) usual

theorem trusts_bind (session : Session) (watched : Watched α) (rule : Rule α) (next : α → Watched β) (next' : α → Rule β)
    (head : Trusts session watched rule)
    (tail : ∀ value later, Disciplined later.reader.remaining → Trusts later (next value) (next' value)) :
    Trusts session (watched >>= next) (rule >>= next') := by
  cases head with
  | passed value between done also left =>
      have step : (watched >>= next) session = next value between := by simp only [bind, EStateM.bind, also]
      cases tail value between left with
      | passed result later done' also' left' =>
          exact .passed result later ((bind_passed _ _ _ _ _ done).trans done') (step.trans also') left'
      | stopped fault later failed also' usual =>
          exact .stopped fault later ((bind_passed _ _ _ _ _ done).trans failed) (step.trans also') usual
  | stopped fault later failed also usual =>
      exact .stopped fault later (bind_failed _ _ _ _ _ failed) (by simp only [bind, EStateM.bind, also]) usual

theorem trusty_bind (watched : Watched α) (rule : Rule α) (next : α → Watched β) (next' : α → Rule β)
    (head : Trusty watched rule) (tail : ∀ value, Trusty (next value) (next' value)) :
    Trusty (watched >>= next) (rule >>= next') :=
  fun session disciplined => trusts_bind session _ _ _ _ (head session disciplined) tail

theorem trusty_pure (value : α) : Trusty (pure value) (pure value) :=
  fun session disciplined => .passed value session rfl rfl disciplined

theorem trusts_look (look : Rule α) (see : Session → α) (seen : ∀ session, look session = .ok (see session) session)
    (next : α → Watched β) (next' : α → Rule β) (session : Session)
    (tail : Trusts session (next (see session)) (next' (see session))) :
    Trusts session (Watched.plain look >>= next) (look >>= next') := by
  have looked : Watched.plain look session = .ok (see session) session := by
    rw [Watched.plain, EStateM.adaptExcept, seen]
  have step : (Watched.plain look >>= next) session = next (see session) session := by
    simp only [bind, EStateM.bind, looked]
  have step' := bind_passed look next' session session _ (seen session)
  cases tail with
  | passed value later done also left => exact .passed value later (step'.trans done) (step.trans also) left
  | stopped fault later failed also usual => exact .stopped fault later (step'.trans failed) (step.trans also) usual

theorem trusty_aside (rule : Rule α) (aside : Aside rule) : Trusty (Watched.plain rule) rule := by
  intro session disciplined
  cases done : rule session with
  | ok value later =>
      refine trusts_passed session later rule value done ?_
      rw [(aside_facing rule aside session later value done []).2]
      exact disciplined
  | error fault later =>
      cases fault with
      | violation error => exact absurd done (aside.calm session error later)
      | overflow cause => exact trusts_stopped session later rule _ done (.overflow cause)

theorem trusty_take (category : Option Category) (value : Option String) (expected : .token category value ∈ usual) :
    Trusty (Watched.plain (take category value)) (take category value) := by
  intro session disciplined
  cases ahead : session.reader.remaining with
  | nil => exact trusts_stopped session _ _ _ (take_end category value session ahead) (.violation _ expected)
  | cons token rest =>
      have step := take_cons category value session token rest ahead
      rw [ahead] at disciplined
      split at step
      · exact trusts_passed session _ _ token step (disciplined_cons token rest disciplined)
      · exact trusts_stopped session _ _ _ step (.violation _ expected)

theorem trusts_refuse (look : Rule Snapshot) (see : Session → Snapshot)
    (seen : ∀ session, look session = .ok (see session) session) (expected : Expectation) (known : expected ∈ usual)
    (session : Session) : Trusts session (Watched.plain (look >>= fail expected : Rule α)) (look >>= fail expected) :=
  trusts_stopped session session _ _ (bind_passed _ _ _ _ _ (seen session)) (.violation _ known)

-- Where the spelling in front is known, so is the category.

theorem trusts_opening (category : Category) (text : String) (session : Session)
    (tells : ∀ token ∈ session.reader.remaining, token.value = text → token.category = category)
    (disciplined : Disciplined session.reader.remaining) (front : session.reader.peekValue? = some text) :
    Trusts session (Watched.opening (take (some category) (some text))) (take (some category) (some text)) := by
  cases ahead : session.reader.remaining with
  | nil =>
      rw [Reader.peekValue?, ahead] at front
      cases front
  | cons token rest =>
      rw [Reader.peekValue?, ahead] at front
      rw [ahead] at tells disciplined
      have value : token.value = text := Option.some.inj front
      have fits : Fits (some category) (some text) token := by
        refine ⟨?_, ?_⟩
        · rintro _ ⟨⟩
          exact (tells token List.mem_cons_self value).symm
        · rintro _ ⟨⟩
          exact value.symm
      have step := take_cons (some category) (some text) session token rest ahead
      rw [if_pos ((fits_iff _ _ _).mpr fits)] at step
      exact .passed token _ step (by rw [Watched.opening, EStateM.adaptExcept, step]) (disciplined_cons token rest disciplined)

theorem trusts_keyword (word : Keyword) (session : Session) (disciplined : Disciplined session.reader.remaining)
    (front : session.reader.peekValue? = some word.spelling) :
    Trusts session (Watched.opening (keyword word)) (keyword word) :=
  trusts_opening .keyword word.spelling session (fun token inside => (disciplined token inside).keyword word) disciplined front

theorem trusts_bracket (session : Session) (disciplined : Disciplined session.reader.remaining)
    (front : session.reader.peekValue? = some Vocabulary.opening) :
    Trusts session (Watched.opening (separator Vocabulary.opening)) (separator Vocabulary.opening) :=
  trusts_opening .separator Vocabulary.opening session (fun token inside => (disciplined token inside).opening)
    disciplined front

theorem watched_bind (rule : Rule α) (next : α → Rule β) :
    Watched.plain (rule >>= next) = Watched.plain rule >>= fun value => Watched.plain (next value) := by
  funext session
  cases done : rule session <;> simp only [Watched.plain, EStateM.adaptExcept, bind, EStateM.bind, done]

theorem trusty_fail (expected : Expectation) (found : Snapshot) (known : expected ∈ usual) :
    Trusty (Watched.plain (fail expected found : Rule α)) (fail expected found) :=
  fun session _ => trusts_stopped session session _ _ rfl (.violation _ known)

theorem trusty_number : Trusty (Watched.plain number) number := by
  rw [number, watched_bind]
  refine trusty_bind _ _ _ _ (trusty_take none none (by decide)) fun token => ?_
  cases token.number? with
  | some value => exact trusty_pure value
  | none => exact trusty_fail _ _ (by decide)

theorem trusty_value (category : Category) (expected : .token (some category) none ∈ usual) :
    Trusty (Watched.plain (do return (← take (some category) none).value : Rule String))
      (do return (← take (some category) none).value) := by
  rw [watched_bind]
  exact trusty_bind _ _ _ _ (trusty_take _ _ expected) fun _ => trusty_pure _

theorem trusts_coords (session : Session) (disciplined : Disciplined session.reader.remaining)
    (front : session.reader.peekValue? = some Vocabulary.opening) : Trusts session Watched.coords coords := by
  have read : Trusty _ _ := trusty_bind _ _ _ _ trusty_number fun x : Number =>
    trusty_bind _ _ _ _ (trusty_take (some .separator) (some Vocabulary.comma) (by decide)) fun _ =>
      trusty_bind _ _ _ _ trusty_number fun y : Number =>
        trusty_bind _ _ _ _ (trusty_take (some .separator) (some Vocabulary.closing) (by decide)) fun _ =>
          trusty_pure (Coords.mk x y)
  exact trusts_bind session _ _ _ _ (trusts_bracket session disciplined front) fun _ later left => read later left

variable (jitter : Jitter)

theorem trusty_resolve (name : String) : Trusty (Watched.resolve jitter name) (resolve jitter name) := by
  intro session disciplined
  refine trusts_look peekValue? (fun session => session.reader.peekValue?) (fun _ => rfl) _ _ session ?_
  split
  · exact trusts_coords session disciplined (by assumption)
  · exact trusty_aside _ (aside_unwritten jitter name) session disciplined

theorem trusty_mark : Trusty Watched.pointMark pointMark := by
  intro session disciplined
  refine trusts_look front? (fun session => session.reader.remaining.head?) (fun _ => rfl) _ _ session ?_
  cases ahead : session.reader.remaining with
  | nil => exact trusts_refuse snapshot (fun session => session.reader.snapshot) (fun _ => rfl) _ (by decide) session
  | cons head rest =>
      dsimp only [List.head?_cons]
      split
      · rename_i spelled
        have front : session.reader.peekValue? = some Keyword.point.spelling := by
          rw [Reader.peekValue?, ahead]
          exact congrArg some spelled
        exact trusts_bind session _ _ _ _ (trusts_keyword .point session disciplined front) fun _ => trusty_pure ()
      · split
        · exact trusty_pure () session disciplined
        · exact trusty_fail _ _ (by decide) session disciplined

theorem trusty_point : Trusty (Watched.point jitter) (point jitter) :=
  trusty_bind _ _ _ _ trusty_mark fun _ => trusty_bind _ _ _ _ (trusty_value .identifier (by decide)) fun name =>
    trusty_bind _ _ _ _ (trusty_resolve jitter name) fun place =>
      trusty_bind _ _ _ _ (trusty_aside _ (aside_record name place)) fun _ => trusty_pure _

theorem trusts_path (extent : Extent) (session : Session) (disciplined : Disciplined session.reader.remaining)
    (front : session.reader.peekValue? = some extent.keyword.spelling) :
    Trusts session (Watched.path jitter extent) (path jitter extent) :=
  trusts_bind session _ _ _ _ (trusts_keyword extent.keyword session disciplined front) fun _ =>
    trusty_bind _ _ _ _ (trusty_point jitter) fun _ => trusty_bind _ _ _ _ (trusty_point jitter) fun _ => trusty_pure _

-- The keyword that was seen is the one in front.
theorem trusts_ahead (next : Option Keyword → Watched α) (next' : Option Keyword → Rule α) (session : Session)
    (named : ∀ word : Keyword, session.reader.peekValue? = some word.spelling →
      Trusts session (next (some word)) (next' (some word)))
    (unnamed : Trusts session (next none) (next' none)) :
    Trusts session (Watched.plain frontKeyword? >>= next) (frontKeyword? >>= next') := by
  refine trusts_look frontKeyword? (fun session => session.reader.peekValue?.bind Keyword.ofSpelling?) (fun _ => rfl)
    _ _ session ?_
  cases found : session.reader.peekValue?.bind Keyword.ofSpelling? with
  | none => exact unnamed
  | some word =>
      obtain ⟨spelling, front, spelled⟩ := Option.bind_eq_some_iff.mp found
      rw [← Keyword.spelling_of_of_spelling spelling word spelled] at front
      exact named word front

theorem trusty_base : Trusty (Watched.base jitter) (base jitter) := by
  intro session disciplined
  have refused := trusts_refuse (α := Line Number) peekSnapshot (fun session => session.reader.peekSnapshot) (fun _ => rfl)
    .baseName (by decide) session
  refine trusts_ahead _ _ session (fun word front => ?_) refused
  cases word with
  | line => exact trusts_path jitter .line session disciplined front
  | segment => exact trusts_path jitter .segment session disciplined front
  | point => exact refused
  | perpendicular => exact refused
  | triangle => exact refused

theorem trusts_figure_of (word : Keyword) (session : Session) (disciplined : Disciplined session.reader.remaining)
    (front : session.reader.peekValue? = some word.spelling) :
    Trusts session (Watched.figureOf jitter word) (figureOf jitter word) := by
  have point := trusty_point jitter
  cases word with
  | point => exact trusts_bind session _ _ _ _ (point session disciplined) fun _ => trusty_pure _
  | line => exact trusts_bind session _ _ _ _ (trusts_path jitter .line session disciplined front) fun _ => trusty_pure _
  | segment =>
      exact trusts_bind session _ _ _ _ (trusts_path jitter .segment session disciplined front) fun _ => trusty_pure _
  | perpendicular =>
      exact trusts_bind session _ _ _ _ (trusts_keyword _ session disciplined front) fun _ =>
        trusty_bind _ _ _ _ point fun _ => trusty_bind _ _ _ _ (trusty_base jitter) fun _ => trusty_pure _
  | triangle =>
      exact trusts_bind session _ _ _ _ (trusts_keyword _ session disciplined front) fun _ =>
        trusty_bind _ _ _ _ point fun _ => trusty_bind _ _ _ _ point fun _ => trusty_bind _ _ _ _ point fun _ => trusty_pure _

theorem trusty_figure : Trusty (Watched.figure jitter) (figure jitter) := fun session disciplined =>
  trusts_ahead _ _ session (fun word front => trusts_figure_of jitter word session disciplined front)
    (trusts_refuse peekSnapshot (fun session => session.reader.peekSnapshot) (fun _ => rfl) _ (by decide) session)

theorem trusty_command : Trusty (Watched.command jitter) (command jitter) :=
  trusty_bind _ _ _ _ (trusty_value .operator (by decide)) fun _ => trusty_bind _ _ _ _ (trusty_figure jitter) fun _ =>
    trusty_bind _ _ _ _ (trusty_take (some .separator) (some Vocabulary.terminator) (by decide)) fun _ =>
      trusty_bind _ _ _ _ (trusty_aside _ (aside_note _)) fun _ => trusty_pure _

theorem usual_commands (session later : Session) (fault : Fault) (disciplined : Disciplined session.reader.remaining)
    (stopped : commands jitter session = .error fault later) : Usual fault := by
  by_cases ended : session.reader.remaining = []
  · rw [commands_end jitter session ended] at stopped
    cases stopped
  · rw [commands_step jitter session ended] at stopped
    have trusts := trusty_command jitter session disciplined
    rcases bind_error _ _ _ _ _ stopped with failed | ⟨first, between, read, behind⟩
    · cases trusts with
      | passed _ _ done => exact absurd (failed.symm.trans done) (by simp)
      | stopped _ _ found _ usual =>
          cases failed.symm.trans found
          exact usual
    · -- A command consumes tokens, so the induction is on what is left of them.
      have shorter := Consumes.command jitter session first between read
      have left : Disciplined between.reader.remaining := by
        cases trusts with
        | passed _ _ done _ left =>
            cases read.symm.trans done
            exact left
        | stopped _ _ found => exact absurd (read.symm.trans found) (by simp)
      rcases bind_error _ _ _ _ _ behind with failed | ⟨_, _, _, none⟩
      · exact usual_commands between later fault left failed
      · cases none
termination_by session.reader.remaining.length

theorem usual_drawing (session later : Session) (fault : Fault) (disciplined : Disciplined session.reader.remaining)
    (stopped : drawing jitter session = .error fault later) : Usual fault := by
  rcases bind_error _ _ _ _ _ stopped with failed | ⟨_, _, _, none⟩
  · exact usual_commands jitter session later fault disciplined failed
  · cases none

end Rule

-- Wherever a rule is picked by the spelling in front, it is not refused at its beginning.
structure NeverMisled (jitter : Jitter) (session : Session) : Prop where
  resolve : ∀ name, Watched.resolve jitter name session = Watched.plain (Rule.resolve jitter name) session
  point : Watched.point jitter session = Watched.plain (Rule.point jitter) session
  base : Watched.base jitter session = Watched.plain (Rule.base jitter) session
  figure : Watched.figure jitter session = Watched.plain (Rule.figure jitter) session
  command : Watched.command jitter session = Watched.plain (Rule.command jitter) session

-- Something goes on behind the last token of the source, and nothing but a number.
def EndsBeforeNumber (jitter : Jitter) (source : String) : Prop :=
  ∃ tokens, tokenize source = .ok tokens ∧
    ∀ token, token.Orderly → (Continues jitter (tokens ++ [token]) ↔ Expectation.number.Names token)

theorem disciplined_session (jitter : Jitter) (tokens : List Token) (disciplined : Disciplined tokens) (session : Session)
    (whole : session.reader.toList = tokens) : NeverMisled jitter session := by
  rw [← whole] at disciplined
  have left := (disciplined_append _ _ disciplined).2
  exact ⟨fun name => Rule.trusts_same _ _ _ (Rule.trusty_resolve jitter name session left),
    Rule.trusts_same _ _ _ (Rule.trusty_point jitter session left),
    Rule.trusts_same _ _ _ (Rule.trusty_base jitter session left),
    Rule.trusts_same _ _ _ (Rule.trusty_figure jitter session left),
    Rule.trusts_same _ _ _ (Rule.trusty_command jitter session left)⟩

theorem bare_ending (jitter : Jitter) (bounded : jitter.Bounded) (tokens : List Token) (disciplined : Disciplined tokens)
    (filled : tokens ≠ []) (error : SyntaxError) (session : Session)
    (stopped : Reading.ofTokens jitter tokens = .stopped (.violation error) session)
    (bare : error.expected = .token none none) (token : Token) (orderly : token.Orderly) :
    Continues jitter (tokens ++ [token]) ↔ Expectation.number.Names token := by
  have failed := (of_tokens_stopped jitter tokens filled _ session).mp stopped
  cases (Rule.locates_drawing jitter _).stops error session failed with
  | ended consumed _ _ _ asks led =>
      obtain ⟨mark, last, leads⟩ := led bare
      rw [consumed.trans (List.append_nil _), List.head?_reverse] at last
      rw [bare] at asks
      exact ((bare_promises jitter bounded tokens disciplined asks mark last leads).bare rfl).2 token orderly
  | refused _ _ _ _ _ _ _ _ _ telling => exact absurd bare telling

theorem reading_usual (jitter : Jitter) (bounded : jitter.Bounded) (source : String) (fault : Fault)
    (failed : (Reading.ofSource jitter source).result = .error fault) : ∃ error, fault = .violation error ∧
      error.expected ∈ usual ∧ (error.expected = .token none none → EndsBeforeNumber jitter source) := by
  rw [Reading.ofSource] at failed
  cases split : tokenize source with
  | error error =>
      rw [split] at failed
      cases failed
      obtain ⟨_, _, _, _, _, _, _, rfl⟩ := stuck_found source error split
      exact ⟨_, rfl, by simp [usual], fun bare => by cases bare⟩
  | ok tokens =>
      rw [split] at failed
      dsimp only at failed
      have disciplined := tokenize_disciplined source tokens split
      by_cases nothing : tokens = []
      · subst nothing
        cases failed
        exact ⟨_, rfl, by simp [usual, SyntaxError.unmet], fun bare => by cases bare⟩
      · rcases tokens_read jitter bounded tokens with ⟨error, _, empty⟩ | ⟨error, _, session, _, _, stopped, _⟩ |
          ⟨_, _, _, _, _, finished⟩
        · rw [of_tokens_drawing jitter tokens nothing] at empty
          split at empty <;> cases empty
        · rw [stopped] at failed
          cases failed
          have drawing := (of_tokens_stopped jitter tokens nothing _ session).mp stopped
          cases Rule.usual_drawing jitter _ session _ disciplined drawing with
          | violation _ expected =>
              exact ⟨error, rfl, expected, fun bare =>
                ⟨tokens, split, bare_ending jitter bounded tokens disciplined nothing error session stopped bare⟩⟩
        · rw [finished] at failed
          cases failed

/-- A rule that is picked by the spelling in front begins with what stands there. So no source is ever told to have
lacked a keyword or an opening bracket, and it is told to have lacked nothing in particular only where it ends and a
number is missing. -/
theorem picked_rules_begin (jitter : Jitter) (bounded : jitter.Bounded) (source : String) :
    (∀ tokens, tokenize source = .ok tokens → ∀ session, session.reader.toList = tokens → NeverMisled jitter session) ∧
      ∀ fault, (Reading.ofSource jitter source).result = .error fault → ∃ error, fault = .violation error ∧
        error.expected.text ∈ usualTexts ∧ ¬"KeyWord <".toList <+: error.expected.text.toList ∧
          error.expected.text ≠ "Separator <(>" ∧ (error.expected.text = " <>" → EndsBeforeNumber jitter source) := by
  constructor
  · intro tokens split session whole
    exact disciplined_session jitter tokens (tokenize_disciplined source tokens split) session whole
  · intro fault failed
    obtain ⟨error, violation, expected, ending⟩ := reading_usual jitter bounded source fault failed
    have text : error.expected.text ∈ usualTexts := usual_texts ▸ List.mem_map_of_mem expected
    obtain ⟨keyword, bracket⟩ := usual_spared _ text
    exact ⟨error, violation, text, keyword, bracket, fun bare => ending (usual_bare _ expected bare)⟩

theorem open_bracket_wants_number : (Jitter.cycle [3, 4]).Bounded ∧ tokenize "DRAW POINT A(" = .ok openBracket ∧
    NeverMisled (.cycle [3, 4]) ⟨.ofTokens openBracket, [], [], []⟩ ∧
      (Reading.ofSource (.cycle [3, 4]) "DRAW POINT A(").result = .error (.violation ⟨.token none none, 12, "("⟩) ∧
        EndsBeforeNumber (.cycle [3, 4]) "DRAW POINT A(" := by
  have bounded : (Jitter.cycle [3, 4]).Bounded := cycle_bounded _ (by decide)
  have failed : (Reading.ofSource (.cycle [3, 4]) "DRAW POINT A(").result =
      .error (.violation ⟨.token none none, 12, "("⟩) := by
    rw [Reading.ofSource, open_bracket_split]
    dsimp only
    rw [open_bracket_reading, Reading.result]
  obtain ⟨picked, usual⟩ := picked_rules_begin (.cycle [3, 4]) bounded "DRAW POINT A("
  obtain ⟨_, same, _, _, _, ending⟩ := usual _ failed
  cases same
  exact ⟨bounded, open_bracket_split, picked _ open_bracket_split _ rfl, failed, ending rfl⟩

-- A token that no source has: it is spelled like a keyword, and is none.
example : Watched.figure (.cycle [3, 4]) ⟨.ofTokens [⟨.identifier, "LINE", 0⟩], [], [], []⟩ =
    .error (.misled (.violation ⟨.token (some .keyword) (some "LINE"), 0, "LINE"⟩))
      ⟨⟨[⟨.identifier, "LINE", 0⟩], []⟩, [], [], []⟩ := rfl

end Straightedge
