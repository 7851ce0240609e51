import Straightedge.Parse.Drawing

namespace Straightedge.Rule

structure Hereditary (jitter : Jitter) (Holds : {α : Type} → Rule α → Session → Prop) : Prop where
  value : ∀ {α : Type} (value : α) session, Holds (Pure.pure value) session
  both : ∀ {α β : Type} (rule : Rule α) (next : α → Rule β) session, Holds rule session →
    (∀ value later, rule session = .ok value later → Holds (next value) later) → Holds (rule >>= next) session
  point : ∀ session, Holds (Rule.point jitter) session
  word : ∀ word session, Holds (keyword word) session
  operator : ∀ session, Holds Rule.operator session
  terminator : ∀ session, Holds (separator Vocabulary.terminator) session
  noted : ∀ event session, Holds (note event) session
  counted : ∀ session, Holds tableSize session
  refused : ∀ {α : Type} expected session, Holds (peekSnapshot >>= fail expected : Rule α) session
  -- A rule is picked by the keyword in front. Where none stands there, the token is refused.
  picked : ∀ {α : Type} (next : Option Keyword → Rule α) expected, next none = (peekSnapshot >>= fail expected) →
    ∀ session, Holds (next (session.reader.peekValue?.bind Keyword.ofSpelling?)) session →
      Holds (frontKeyword? >>= next) session
  ended : ∀ session, session.reader.remaining = [] → Holds (commands jitter) session
  more : ∀ session, session.reader.remaining ≠ [] →
    Holds (do let first ← command jitter; let rest ← commands jitter; return first :: rest) session →
      Holds (commands jitter) session

variable {jitter : Jitter} {Holds : {α : Type} → Rule α → Session → Prop} (hereditary : Hereditary jitter Holds)

include hereditary

theorem hereditary_path (extent : Extent) (session : Session) : Holds (path jitter extent) session :=
  hereditary.both _ _ session (hereditary.word _ session) fun _ second _ =>
    hereditary.both _ _ second (hereditary.point second) fun _ third _ =>
      hereditary.both _ _ third (hereditary.point third) fun _ last _ => hereditary.value _ last

theorem hereditary_base (session : Session) : Holds (base jitter) session := by
  refine hereditary.picked _ .baseName rfl session ?_
  split
  · exact hereditary_path hereditary .line session
  · exact hereditary_path hereditary .segment session
  · exact hereditary.refused .baseName session

theorem hereditary_perpendicular (session : Session) : Holds (perpendicular jitter) session :=
  hereditary.both _ _ session (hereditary.word _ session) fun _ second _ =>
    hereditary.both _ _ second (hereditary.point second) fun _ third _ =>
      hereditary.both _ _ third (hereditary_base hereditary third) fun _ last _ => hereditary.value _ last

theorem hereditary_triangle (session : Session) : Holds (triangle jitter) session :=
  hereditary.both _ _ session (hereditary.word _ session) fun _ second _ =>
    hereditary.both _ _ second (hereditary.point second) fun _ third _ =>
      hereditary.both _ _ third (hereditary.point third) fun _ fourth _ =>
        hereditary.both _ _ fourth (hereditary.point fourth) fun _ last _ => hereditary.value _ last

theorem hereditary_figure_of (word : Keyword) (session : Session) : Holds (figureOf jitter word) session := by
  have path := hereditary_path hereditary
  cases word with
  | point => exact hereditary.both _ _ session (hereditary.point session) fun _ last _ => hereditary.value _ last
  | line => exact hereditary.both _ _ session (path .line session) fun _ last _ => hereditary.value _ last
  | segment => exact hereditary.both _ _ session (path .segment session) fun _ last _ => hereditary.value _ last
  | perpendicular => exact hereditary_perpendicular hereditary session
  | triangle => exact hereditary_triangle hereditary session

theorem hereditary_figure (session : Session) : Holds (figure jitter) session := by
  refine hereditary.picked _ .objectName rfl session ?_
  cases session.reader.peekValue?.bind Keyword.ofSpelling? with
  | none => exact hereditary.refused .objectName session
  | some word => exact hereditary_figure_of hereditary word session

theorem hereditary_command (session : Session) : Holds (command jitter) session :=
  hereditary.both _ _ session (hereditary.operator session) fun _ second _ =>
    hereditary.both _ _ second (hereditary_figure hereditary second) fun _ third _ =>
      hereditary.both _ _ third (hereditary.terminator third) fun _ fourth _ =>
        hereditary.both _ _ fourth (hereditary.noted _ fourth) fun _ last _ => hereditary.value _ last

theorem hereditary_commands (session : Session) : Holds (commands jitter) session := by
  by_cases ended : session.reader.remaining = []
  · exact hereditary.ended session ended
  · refine hereditary.more session ended ?_
    refine hereditary.both _ _ session (hereditary_command hereditary session) fun first later read => ?_
    -- A command consumes tokens, so the induction is on what is left of them.
    have shorter := Consumes.command jitter session first later read
    exact hereditary.both _ _ later (hereditary_commands later) fun _ last _ => hereditary.value _ last
termination_by session.reader.remaining.length

theorem hereditary_drawing (session : Session) : Holds (drawing jitter) session :=
  hereditary.both _ _ session (hereditary_commands hereditary session) fun _ second _ =>
    hereditary.both _ _ second (hereditary.counted second) fun _ third _ =>
      hereditary.both _ _ third (hereditary.noted _ third) fun _ last _ => hereditary.value _ last

end Straightedge.Rule
