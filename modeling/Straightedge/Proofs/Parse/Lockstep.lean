import Straightedge.Proofs.Parse.Drawing

namespace Straightedge

structure Likeness where
  sessions : Session → Session → Prop
  faults : Fault → Fault → Prop

inductive Likeness.Ends (like : Likeness) {α β : Type} (values : α → β → Prop) :
    EStateM.Result Fault Session α → EStateM.Result Fault Session β → Prop where
  | passed (first : α) (second : β) (session other : Session) (same : values first second)
      (kept : like.sessions session other) : Ends like values (.ok first session) (.ok second other)
  | stopped (first second : Fault) (session other : Session) (same : like.faults first second)
      (kept : like.sessions session other) : Ends like values (.error first session) (.error second other)

def Lockstep (like : Likeness) {α β : Type} (values : α → β → Prop) (rule : Rule α) (other : Rule β) : Prop :=
  ∀ session around, like.sessions session around → like.Ends values (rule session) (other around)

-- Figures that differ in their points alone.

section

variable (same : Point Number → Point Number → Prop)

def Line.Alike (first second : Line Number) : Prop :=
  first.extent = second.extent ∧ same first.start second.start ∧ same first.stop second.stop

inductive Figure.Alike : Figure Number → Figure Number → Prop where
  | point (first second : Point Number) (places : same first second) : Alike (.point first) (.point second)
  | line (first second : Line Number) (lines : first.Alike same second) : Alike (.line first) (.line second)
  | perpendicular (base base' : Line Number) (apex apex' : Point Number) (bases : base.Alike same base')
      (apexes : same apex apex') : Alike (.perpendicular base apex) (.perpendicular base' apex')
  | triangle (a b c a' b' c' : Point Number) (first : same a a') (second : same b b') (third : same c c') :
      Alike (.triangle a b c) (.triangle a' b' c')

def Command.Alike (first second : Command Number) : Prop :=
  first.operator = second.operator ∧ first.object.Alike same second.object

end

section

variable {α β : Type} (put : Point α → Point β)

def Line.each (path : Line α) : Line β := ⟨path.extent, put path.start, put path.stop⟩

def Figure.each : Figure α → Figure β
  | .point place => .point (put place)
  | .line path => .line (path.each put)
  | .perpendicular base apex => .perpendicular (base.each put) (put apex)
  | .triangle first second third => .triangle (put first) (put second) (put third)

def Command.each (command : Command α) : Command β := ⟨command.operator, command.object.each put⟩

end

theorem drawing_each_id (drawing : Drawing) : drawing.map (Command.each id) = drawing := by
  refine (List.map_congr_left fun command _ => ?_).trans (List.map_id drawing)
  obtain ⟨operator, object⟩ := command
  cases object <;> rfl

section

variable {same : Point Number → Point Number → Prop} {β : Type} (put put' : Point Number → Point β)
  (within : ∀ point other, same point other → put point = put' other)

include within

theorem line_each (first second : Line Number) (alike : first.Alike same second) : first.each put = second.each put' := by
  obtain ⟨extents, starts, stops⟩ := alike
  rw [Line.each, Line.each, extents, within _ _ starts, within _ _ stops]

theorem figure_each (first second : Figure Number) (alike : first.Alike same second) :
    first.each put = second.each put' := by
  cases alike with
  | point _ _ places => exact congrArg Figure.point (within _ _ places)
  | line _ _ lines => exact congrArg Figure.line (line_each put put' within _ _ lines)
  | perpendicular _ _ _ _ bases apexes =>
      exact congrArg₂ Figure.perpendicular (line_each put put' within _ _ bases) (within _ _ apexes)
  | triangle _ _ _ _ _ _ one two three =>
      rw [Figure.each, Figure.each, within _ _ one, within _ _ two, within _ _ three]

theorem drawing_each (first second : Drawing) (alike : List.Forall₂ (Command.Alike same) first second) :
    first.map (Command.each put) = second.map (Command.each put') := by
  induction alike with
  | nil => rfl
  | cons head _ ih =>
      rw [List.map_cons, List.map_cons, ih, Command.each, Command.each, head.1, figure_each put put' within _ _ head.2]

end

theorem drawing_alike_eq (first second : Drawing) (alike : List.Forall₂ (Command.Alike Eq) first second) :
    first = second := by
  have replaced := drawing_each id id (fun _ _ same => same) first second alike
  rwa [drawing_each_id, drawing_each_id] at replaced

theorem drawing_put (same : Point Number → Point Number → Prop) (put : Point Number → Point Number)
    (within : ∀ point other, same point other → other = put point) (first second : Drawing)
    (alike : List.Forall₂ (Command.Alike same) first second) : second = first.map (Command.each put) := by
  have replaced := drawing_each put id (fun point other related => (within point other related).symm) first second alike
  rw [drawing_each_id] at replaced
  exact replaced.symm

section

variable (same : Point Number → Point Number → Prop)

theorem figure_points (first second : Figure Number) (alike : first.Alike same second) :
    List.Forall₂ same first.points second.points := by
  cases alike with
  | point _ _ places => exact .cons places .nil
  | line _ _ lines => exact .cons lines.2.1 (.cons lines.2.2 .nil)
  | perpendicular _ _ _ _ bases apexes => exact .cons apexes (.cons bases.2.1 (.cons bases.2.2 .nil))
  | triangle _ _ _ _ _ _ one two three => exact .cons one (.cons two (.cons three .nil))

theorem drawing_points (first second : Drawing) (alike : List.Forall₂ (Command.Alike same) first second) :
    List.Forall₂ same first.points second.points := by
  induction alike with
  | nil => exact .nil
  | cons head _ ih => exact List.rel_append (figure_points same _ _ head.2) ih

theorem line_from_points (first second : Line Number) (alike : first.Alike same second) (points : first.points = second.points) :
    first = second := by
  obtain ⟨extent, start, stop⟩ := first
  obtain ⟨rfl, _⟩ := alike
  cases points
  rfl

theorem figure_from_points (first second : Figure Number) (alike : first.Alike same second)
    (points : first.points = second.points) : first = second := by
  cases alike with
  | point =>
      cases points
      rfl
  | line _ _ lines => exact congrArg Figure.line (line_from_points same _ _ lines points)
  | perpendicular _ _ _ _ bases =>
      obtain ⟨apexes, basePoints⟩ := List.cons.inj points
      rw [line_from_points same _ _ bases basePoints, apexes]
  | triangle =>
      cases points
      rfl

theorem drawing_from_points (first second : Drawing) (alike : List.Forall₂ (Command.Alike same) first second)
    (points : first.points = second.points) : first = second := by
  induction alike with
  | nil => rfl
  | @cons command other rest others head _ ih =>
      obtain ⟨objects, behind⟩ := List.append_inj points (figure_points same _ _ head.2).length_eq
      obtain ⟨operator, object⟩ := command
      obtain ⟨operator', object'⟩ := other
      obtain ⟨operators, figures⟩ := head
      cases operators
      cases figure_from_points same _ _ figures objects
      rw [ih behind]

end

namespace Rule

-- What holds of two readings of whole drawings because it holds of the points and of the single words in them. Behind
-- two parts only those sessions matter that the parts lead to.
structure Coupled (same : Point Number → Point Number → Prop) (first second : Jitter)
    (Holds : {α β : Type} → (α → β → Prop) → Rule α → Rule β → Session → Session → Prop) : Prop where
  value : ∀ {α β : Type} (values : α → β → Prop) one two session around, values one two →
    Holds values (pure one) (pure two) session around
  both : ∀ {α β γ δ : Type} (values : α → β → Prop) (results : γ → δ → Prop) (rule : Rule α) (other : Rule β)
    (next : α → Rule γ) (next' : β → Rule δ) session around, Holds values rule other session around →
      (∀ one two later later', rule session = .ok one later → values one two →
        Holds results (next one) (next' two) later later') → Holds results (rule >>= next) (other >>= next') session around
  point : ∀ session around, Holds same (Rule.point first) (Rule.point second) session around
  word : ∀ word session around, Holds (fun _ _ => True) (keyword word) (keyword word) session around
  operator : ∀ session around, Holds Eq Rule.operator Rule.operator session around
  terminator : ∀ session around,
    Holds (fun _ _ => True) (separator Vocabulary.terminator) (separator Vocabulary.terminator) session around
  noted : ∀ event other session around, Holds Eq (note event) (note other) session around
  counted : ∀ session around, Holds (fun _ _ => True) tableSize tableSize session around
  refused : ∀ {α β : Type} (values : α → β → Prop) expected session around,
    Holds values (peekSnapshot >>= fail expected) (peekSnapshot >>= fail expected) session around
  picked : ∀ {α β : Type} (values : α → β → Prop) next next' session around,
    (∀ word, Holds values (next word) (next' word) session around) →
      Holds values (frontKeyword? >>= next) (frontKeyword? >>= next') session around
  ended : ∀ session around, session.reader.remaining = [] →
    Holds (List.Forall₂ (Command.Alike same)) (commands first) (commands second) session around
  more : ∀ session around, session.reader.remaining ≠ [] →
    Holds (List.Forall₂ (Command.Alike same)) (do let one ← command first; let rest ← commands first; return one :: rest)
      (do let one ← command second; let rest ← commands second; return one :: rest) session around →
      Holds (List.Forall₂ (Command.Alike same)) (commands first) (commands second) session around

section

variable {same : Point Number → Point Number → Prop} {first second : Jitter}
  {Holds : {α β : Type} → (α → β → Prop) → Rule α → Rule β → Session → Session → Prop}
  (coupled : Coupled same first second Holds)

include coupled

theorem coupled_path (extent : Extent) (session around : Session) :
    Holds (Line.Alike same) (path first extent) (path second extent) session around := by
  refine coupled.both _ _ _ _ _ _ session around (coupled.word _ _ _) fun _ _ second second' _ _ => ?_
  refine coupled.both _ _ _ _ _ _ second second' (coupled.point _ _) fun _ _ third third' _ start => ?_
  refine coupled.both _ _ _ _ _ _ third third' (coupled.point _ _) fun _ _ last last' _ stop => ?_
  exact coupled.value _ _ _ last last' ⟨rfl, start, stop⟩

theorem coupled_base (session around : Session) :
    Holds (Line.Alike same) (base first) (base second) session around := by
  refine coupled.picked _ _ _ session around fun word => ?_
  split
  · exact coupled_path coupled .line session around
  · exact coupled_path coupled .segment session around
  · exact coupled.refused _ .baseName session around

theorem coupled_figure_of (word : Keyword) (session around : Session) :
    Holds (Figure.Alike same) (figureOf first word) (figureOf second word) session around := by
  have path := coupled_path coupled
  cases word with
  | point =>
      refine coupled.both _ _ _ _ _ _ session around (coupled.point _ _) fun _ _ last last' _ places => ?_
      exact coupled.value _ _ _ last last' (.point _ _ places)
  | line =>
      refine coupled.both _ _ _ _ _ _ session around (path .line _ _) fun _ _ last last' _ lines => ?_
      exact coupled.value _ _ _ last last' (.line _ _ lines)
  | segment =>
      refine coupled.both _ _ _ _ _ _ session around (path .segment _ _) fun _ _ last last' _ lines => ?_
      exact coupled.value _ _ _ last last' (.line _ _ lines)
  | perpendicular =>
      refine coupled.both _ _ _ _ _ _ session around (coupled.word _ _ _) fun _ _ second second' _ _ => ?_
      refine coupled.both _ _ _ _ _ _ second second' (coupled.point _ _) fun _ _ third third' _ apexes => ?_
      refine coupled.both _ _ _ _ _ _ third third' (coupled_base coupled _ _) fun _ _ last last' _ bases => ?_
      exact coupled.value _ _ _ last last' (.perpendicular _ _ _ _ bases apexes)
  | triangle =>
      refine coupled.both _ _ _ _ _ _ session around (coupled.word _ _ _) fun _ _ second second' _ _ => ?_
      refine coupled.both _ _ _ _ _ _ second second' (coupled.point _ _) fun _ _ third third' _ one => ?_
      refine coupled.both _ _ _ _ _ _ third third' (coupled.point _ _) fun _ _ fourth fourth' _ two => ?_
      refine coupled.both _ _ _ _ _ _ fourth fourth' (coupled.point _ _) fun _ _ last last' _ three => ?_
      exact coupled.value _ _ _ last last' (.triangle _ _ _ _ _ _ one two three)

theorem coupled_figure (session around : Session) :
    Holds (Figure.Alike same) (figure first) (figure second) session around := by
  refine coupled.picked _ _ _ session around fun word => ?_
  cases word with
  | some word => exact coupled_figure_of coupled word session around
  | none => exact coupled.refused _ .objectName session around

theorem coupled_command (session around : Session) :
    Holds (Command.Alike same) (command first) (command second) session around := by
  refine coupled.both _ _ _ _ _ _ session around (coupled.operator _ _) fun _ _ second second' _ operators => ?_
  refine coupled.both _ _ _ _ _ _ second second' (coupled_figure coupled _ _) fun _ _ third third' _ objects => ?_
  refine coupled.both _ _ _ _ _ _ third third' (coupled.terminator _ _) fun _ _ fourth fourth' _ _ => ?_
  refine coupled.both _ _ _ _ _ _ fourth fourth' (coupled.noted _ _ _ _) fun _ _ last last' _ _ => ?_
  exact coupled.value _ _ _ last last' ⟨operators, objects⟩

theorem coupled_commands (session around : Session) :
    Holds (List.Forall₂ (Command.Alike same)) (commands first) (commands second) session around := by
  by_cases ended : session.reader.remaining = []
  · exact coupled.ended session around ended
  · refine coupled.more session around ended ?_
    refine coupled.both _ _ _ _ _ _ session around (coupled_command coupled _ _) fun one _ later later' read alike => ?_
    -- A command consumes tokens, so the induction is on what is left of them.
    have shorter := Consumes.command first session one later read
    refine coupled.both _ _ _ _ _ _ later later' (coupled_commands later later') fun _ _ last last' _ drawings => ?_
    exact coupled.value _ _ _ last last' (.cons alike drawings)
termination_by session.reader.remaining.length

theorem coupled_drawing (session around : Session) :
    Holds (List.Forall₂ (Command.Alike same)) (drawing first) (drawing second) session around := by
  refine coupled.both _ _ _ _ _ _ session around (coupled_commands coupled _ _) fun _ _ second second' _ alike => ?_
  refine coupled.both _ _ _ _ _ _ second second' (coupled.counted _ _) fun _ _ third third' _ _ => ?_
  refine coupled.both _ _ _ _ _ _ third third' (coupled.noted _ _ _ _) fun _ _ last last' _ _ => ?_
  exact coupled.value _ _ _ last last' alike

end

variable {like : Likeness} {α β γ δ : Type}

theorem lockstep_pure (values : α → β → Prop) (first : α) (second : β) (same : values first second) :
    Lockstep like values (pure first) (pure second) :=
  fun session around related => .passed first second session around same related

-- Of the second pair of rules only the two runs behind the first pair matter.
theorem ends_bind (rule : Rule α) (other : Rule β) (next : α → Rule γ) (next' : β → Rule δ) (values : α → β → Prop)
    (results : γ → δ → Prop) (session around : Session) (head : like.Ends values (rule session) (other around))
    (tail : ∀ first second later later', rule session = .ok first later → values first second →
      like.sessions later later' → like.Ends results (next first later) (next' second later')) :
    like.Ends results ((rule >>= next) session) ((other >>= next') around) := by
  generalize done : rule session = left at head
  generalize also : other around = right at head
  cases head with
  | passed first second later later' same kept =>
      rw [bind_passed _ _ _ _ _ done, bind_passed _ _ _ _ _ also]
      exact tail first second later later' done same kept
  | stopped fault fault' later later' same kept =>
      rw [bind_failed _ _ _ _ _ done, bind_failed _ _ _ _ _ also]
      exact .stopped fault fault' later later' same kept

theorem lockstep_bind (rule : Rule α) (other : Rule β) (next : α → Rule γ) (next' : β → Rule δ)
    (values : α → β → Prop) (results : γ → δ → Prop) (head : Lockstep like values rule other)
    (tail : ∀ first second, values first second → Lockstep like results (next first) (next' second)) :
    Lockstep like results (rule >>= next) (other >>= next') :=
  fun session around related => ends_bind rule other next next' values results session around (head session around related)
    fun first second later later' _ same kept => tail first second same later later' kept

theorem lockstep_mono (rule : Rule α) (other : Rule β) (values wider : α → β → Prop)
    (within : ∀ first second, values first second → wider first second) (lockstep : Lockstep like values rule other) :
    Lockstep like wider rule other := by
  intro session around related
  have ends := lockstep session around related
  generalize rule session = left at ends ⊢
  generalize other around = right at ends ⊢
  cases ends with
  | passed first second later later' same kept => exact .passed first second later later' (within first second same) kept
  | stopped fault fault' later later' same kept => exact .stopped fault fault' later later' same kept

theorem lockstep_look (values : α → β → Prop) (look : Rule γ) (look' : Rule δ) (next : γ → Rule α) (next' : δ → Rule β)
    (see : Session → γ) (see' : Session → δ) (seen : ∀ session, look session = .ok (see session) session)
    (seen' : ∀ session, look' session = .ok (see' session) session)
    (tail : ∀ session around, like.sessions session around →
      like.Ends values (next (see session) session) (next' (see' around) around)) :
    Lockstep like values (look >>= next) (look' >>= next') := by
  intro session around related
  rw [bind_passed _ _ _ _ _ (seen session), bind_passed _ _ _ _ _ (seen' around)]
  exact tail session around related

theorem lockstep_step (values : α → β → Prop) (rule : Rule α) (other : Rule β) (value : Session → α) (value' : Session → β)
    (move move' : Session → Session) (step : ∀ session, rule session = .ok (value session) (move session))
    (step' : ∀ session, other session = .ok (value' session) (move' session))
    (related : ∀ session around, like.sessions session around →
      values (value session) (value' around) ∧ like.sessions (move session) (move' around)) :
    Lockstep like values rule other := by
  intro session around before
  obtain ⟨same, kept⟩ := related session around before
  rw [step, step']
  exact .passed _ _ _ _ same kept

-- Points that get the same place, whatever they are called.

-- The two tokens in front may differ, but not in what a rule is picked by.
inductive Fronted (reader other : Reader) : Prop where
  | ended (nothing : reader.remaining = []) (nothingToo : other.remaining = [])
  | facing (first second : Token) (rest rest' : List Token) (front : reader.remaining = first :: rest)
      (frontToo : other.remaining = second :: rest') (category : second.category = first.category)
      (spelled : ∀ word : Keyword, second.value = word.spelling ↔ first.value = word.spelling)
      (opening : second.value = Vocabulary.opening ↔ first.value = Vocabulary.opening)

structure Placing (like : Likeness) (names : String → String → Prop) (jitter : Jitter) : Prop where
  fronted : ∀ session around, like.sessions session around → Fronted session.reader around.reader
  refused : ∀ session around expected, like.sessions session around →
    like.faults (.violation (.unmet expected session.reader.peekSnapshot))
      (.violation (.unmet expected around.reader.peekSnapshot))
  overflow : ∀ cause, like.faults (.overflow cause) (.overflow cause)
  word : ∀ word, Lockstep like (fun _ _ => True) (keyword word) (keyword word)
  separator : ∀ mark, Lockstep like (fun _ _ => True) (separator mark) (separator mark)
  operator : Lockstep like Eq operator operator
  name : Lockstep like names pointName pointName
  number : Lockstep like Eq number number
  found : ∀ first second, names first second → Lockstep like Eq (find? first) (find? second)
  recorded : ∀ first second place, names first second → Lockstep like Eq (record first place) (record second place)
  averaged : Lockstep like Eq average average
  drawn : Lockstep like Eq (draw jitter) (draw jitter)
  noted : ∀ event other, Lockstep like Eq (note event) (note other)

section

variable {names : String → String → Prop} {jitter : Jitter}

theorem fronted_opened (reader other : Reader) (fronted : Fronted reader other) :
    other.peekValue? = some Vocabulary.opening ↔ reader.peekValue? = some Vocabulary.opening := by
  cases fronted with
  | ended nothing nothingToo => rw [Reader.peekValue?, Reader.peekValue?, nothing, nothingToo]
  | facing first second rest rest' front frontToo _ _ opening =>
      rw [Reader.peekValue?, Reader.peekValue?, front, frontToo]
      simpa using opening

theorem fronted_word (reader other : Reader) (fronted : Fronted reader other) :
    other.peekValue?.bind Keyword.ofSpelling? = reader.peekValue?.bind Keyword.ofSpelling? := by
  have spelling (text : String) (word : Keyword) : Keyword.ofSpelling? text = some word ↔ text = word.spelling := by
    constructor
    · exact fun found => (Keyword.spelling_of_of_spelling text word found).symm
    · rintro rfl
      exact Keyword.of_spelling_spelling word
  cases fronted with
  | ended nothing nothingToo => rw [Reader.peekValue?, Reader.peekValue?, nothing, nothingToo]
  | facing first second rest rest' front frontToo _ spelled =>
      rw [Reader.peekValue?, Reader.peekValue?, front, frontToo]
      refine Option.ext fun word => ?_
      exact ((spelling second.value word).trans (spelled word)).trans (spelling first.value word).symm

theorem lockstep_mark (placing : Placing like names jitter) :
    Lockstep like (fun _ _ => True) pointMark pointMark := by
  refine lockstep_look _ front? front? _ _ _ _ (fun _ => rfl) (fun _ => rfl) fun session around related => ?_
  have refused := placing.refused session around .pointDefinition related
  cases placing.fronted session around related with
  | ended nothing nothingToo =>
      rw [Reader.peekSnapshot, Reader.peekSnapshot, nothing, nothingToo] at refused
      rw [nothing, nothingToo]
      exact .stopped _ _ _ _ refused related
  | facing first second rest rest' front frontToo category spelled _ =>
      rw [Reader.peekSnapshot, Reader.peekSnapshot, front, frontToo] at refused
      rw [front, frontToo]
      dsimp only [List.head?_cons]
      by_cases marked : first.value = Keyword.point.spelling
      · rw [if_pos marked, if_pos ((spelled .point).mpr marked)]
        exact lockstep_bind _ _ _ _ _ _ (placing.word .point) (fun _ _ _ => lockstep_pure _ _ _ trivial) session around related
      · rw [if_neg marked, if_neg fun other => marked ((spelled .point).mp other), category]
        split
        · exact .passed _ _ _ _ trivial related
        · exact .stopped _ _ _ _ refused related

theorem lockstep_coords (placing : Placing like names jitter) : Lockstep like Eq coords coords := by
  refine lockstep_bind _ _ _ _ _ _ (placing.separator _) fun _ _ _ => ?_
  refine lockstep_bind _ _ _ _ _ _ placing.number ?_
  rintro x _ rfl
  refine lockstep_bind _ _ _ _ _ _ (placing.separator _) fun _ _ _ => ?_
  refine lockstep_bind _ _ _ _ _ _ placing.number ?_
  rintro y _ rfl
  refine lockstep_bind _ _ _ _ _ _ (placing.separator _) fun _ _ _ => ?_
  exact lockstep_pure _ _ _ rfl

theorem lockstep_moved (placing : Placing like names jitter) (value : Number) :
    Lockstep like Eq (moved jitter value) (moved jitter value) := by
  refine lockstep_bind _ _ _ _ _ _ placing.drawn ?_
  rintro offset _ rfl session around related
  cases sum : value.add (.integer offset) with
  | ok moved => exact .passed _ _ _ _ rfl related
  | error cause => exact .stopped _ _ _ _ (placing.overflow cause) related

theorem lockstep_inferred (placing : Placing like names jitter) :
    Lockstep like Eq (inferred jitter) (inferred jitter) := by
  refine lockstep_bind _ _ _ _ _ _ placing.averaged ?_
  rintro near _ rfl
  refine lockstep_bind _ _ _ _ _ _ (lockstep_moved placing near.x) ?_
  rintro x _ rfl
  refine lockstep_bind _ _ _ _ _ _ (lockstep_moved placing near.y) ?_
  rintro y _ rfl
  exact lockstep_pure _ _ _ rfl

theorem lockstep_resolve (placing : Placing like names jitter) (name name' : String) (called : names name name') :
    Lockstep like Eq (resolve jitter name) (resolve jitter name') := by
  refine lockstep_look _ peekValue? peekValue? _ _ _ _ (fun _ => rfl) (fun _ => rfl) fun session around related => ?_
  have opened := fronted_opened _ _ (placing.fronted session around related)
  by_cases bracket : session.reader.peekValue? = some Vocabulary.opening
  · rw [if_pos bracket, if_pos (opened.mpr bracket)]
    exact lockstep_coords placing session around related
  · rw [if_neg bracket, if_neg fun other => bracket (opened.mp other)]
    refine lockstep_bind _ _ _ _ _ _ (placing.found name name' called) ?_ session around related
    rintro found _ rfl
    cases found with
    | some known => exact lockstep_pure _ _ _ rfl
    | none =>
        refine lockstep_bind _ _ _ _ _ _ (lockstep_inferred placing) ?_
        rintro new _ rfl
        exact lockstep_bind _ _ _ _ _ _ (placing.noted _ _) fun _ _ _ => lockstep_pure _ _ _ rfl

theorem lockstep_point (placing : Placing like names jitter) :
    Lockstep like (fun first second => names first.name second.name ∧ first.coords = second.coords) (point jitter)
      (point jitter) := by
  refine lockstep_bind _ _ _ _ _ _ (lockstep_mark placing) fun _ _ _ => ?_
  refine lockstep_bind _ _ _ _ _ _ placing.name fun name name' called => ?_
  refine lockstep_bind _ _ _ _ _ _ (lockstep_resolve placing name name' called) ?_
  rintro place _ rfl
  exact lockstep_bind _ _ _ _ _ _ (placing.recorded name name' place called) fun _ _ _ =>
    lockstep_pure _ _ _ ⟨called, rfl⟩

end

structure Paired (like : Likeness) (same : Point Number → Point Number → Prop) (first second : Jitter) : Prop where
  more : ∀ session around, like.sessions session around → session.reader.hasNext = around.reader.hasNext
  ahead : ∀ session around, like.sessions session around →
    session.reader.peekValue?.bind Keyword.ofSpelling? = around.reader.peekValue?.bind Keyword.ofSpelling?
  refused : ∀ session around expected, like.sessions session around →
    like.faults (.violation (.unmet expected session.reader.peekSnapshot))
      (.violation (.unmet expected around.reader.peekSnapshot))
  word : ∀ word, Lockstep like (fun _ _ => True) (keyword word) (keyword word)
  terminator : Lockstep like (fun _ _ => True) (separator Vocabulary.terminator) (separator Vocabulary.terminator)
  operator : Lockstep like Eq operator operator
  noted : ∀ event other, Lockstep like Eq (note event) (note other)
  point : Lockstep like same (point first) (point second)

theorem placing_paired (names : String → String → Prop) (same : Point Number → Point Number → Prop) (jitter : Jitter)
    (placing : Placing like names jitter)
    (alike : ∀ point other, names point.name other.name ∧ point.coords = other.coords → same point other) :
    Paired like same jitter jitter where
  more session around related := by
    cases placing.fronted session around related with
    | ended nothing nothingToo => rw [Reader.hasNext, Reader.hasNext, nothing, nothingToo]
    | facing first second rest rest' front frontToo =>
        rw [Reader.hasNext, Reader.hasNext, front, frontToo]
        rfl
  ahead session around related := (fronted_word _ _ (placing.fronted session around related)).symm
  refused := placing.refused
  word := placing.word
  terminator := placing.separator _
  operator := placing.operator
  noted := placing.noted
  point := lockstep_mono _ _ _ _ alike (lockstep_point placing)

variable {same : Point Number → Point Number → Prop} {first second : Jitter}

theorem lockstep_refuse (paired : Paired like same first second) (expected : Expectation) (values : α → β → Prop)
    (session around : Session) (related : like.sessions session around) :
    like.Ends values ((peekSnapshot >>= fail expected : Rule α) session) ((peekSnapshot >>= fail expected : Rule β) around) :=
  .stopped _ _ session around (paired.refused session around expected related) related

theorem lockstep_coupled (paired : Paired like same first second) : Coupled same first second
    fun values rule other session around => like.sessions session around → like.Ends values (rule session) (other around) where
  value _ one two session around alike related := .passed one two session around alike related
  both values results rule other next next' session around head tail related :=
    ends_bind rule other next next' values results session around (head related) tail
  point := paired.point
  word := paired.word
  operator := paired.operator
  terminator := paired.terminator
  noted := paired.noted
  counted session around related := .passed _ _ session around trivial related
  refused values expected := lockstep_refuse paired expected values
  picked values next next' session around tail related := by
    rw [bind_passed frontKeyword? next session session _ rfl, bind_passed frontKeyword? next' around around _ rfl,
      ← paired.ahead session around related]
    exact tail _ related
  ended session around ended related := by
    have more := paired.more session around related
    have endedToo : around.reader.remaining = [] := by simpa [Reader.hasNext, ended] using more
    rw [commands_end first session ended, commands_end second around endedToo]
    exact .passed _ _ session around .nil related
  more session around unfinished rest related := by
    have more := paired.more session around related
    have unfinishedToo : around.reader.remaining ≠ [] := by
      intro ended
      simp [Reader.hasNext, unfinished, ended] at more
    rw [commands_step first session unfinished, commands_step second around unfinishedToo]
    exact rest related

theorem lockstep_commands (paired : Paired like same first second) :
    Lockstep like (List.Forall₂ (Command.Alike same)) (commands first) (commands second) :=
  coupled_commands (lockstep_coupled paired)

theorem lockstep_drawing (paired : Paired like same first second) :
    Lockstep like (List.Forall₂ (Command.Alike same)) (drawing first) (drawing second) :=
  coupled_drawing (lockstep_coupled paired)

end Rule

end Straightedge
