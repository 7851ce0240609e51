import Straightedge.Proofs.Parse.Twin
import Straightedge.Proofs.Parse.Violation

namespace Straightedge

namespace Rule

variable {α β : Type}

-- The text is consumed, and what stands behind it is not even looked at.
structure Alone (rule : Rule α) (session : Session) (text : List Token) (value : α) (later : Session) : Prop where
  consumed : later.reader.consumed = text.reverse ++ session.reader.consumed
  remaining : session.reader.remaining = text ++ later.reader.remaining
  again : ∀ tail, rule (session.facing (text ++ tail)) = .ok value (later.facing tail)

theorem alone_aside (rule : Rule α) (aside : Aside rule) (session later : Session) (value : α)
    (done : rule session = .ok value later) : Alone rule session [] value later := by
  have apart := aside.apart session
  rw [done] at apart
  have kept : later.reader = session.reader := by rw [(EStateM.Result.ok.inj (done.symm.trans (apart session.reader))).2]
  refine ⟨by rw [kept]; rfl, by rw [kept]; rfl, fun tail => ?_⟩
  rw [Session.facing, Session.facing, kept]
  exact apart ⟨session.reader.consumed, tail⟩

theorem alone_take (category : Option Category) (value : Option String) (session later : Session) (token : Token)
    (done : take category value session = .ok token later) : Alone (take category value) session [token] token later := by
  cases ahead : session.reader.remaining with
  | nil =>
      rw [take_end _ _ session ahead] at done
      cases done
  | cons front rest =>
      rw [take_cons _ _ session front rest ahead] at done
      by_cases fits : (category.all (· == front.category) && value.all (· == front.value)) = true
      · rw [if_pos fits] at done
        cases done
        refine ⟨rfl, ahead, fun tail => ?_⟩
        rw [take_cons _ _ _ token tail rfl, if_pos fits]
        rfl
      · rw [if_neg fits] at done
        cases done

theorem alone_bind (rule : Rule α) (next : α → Rule β) (session between later : Session) (front back : List Token)
    (value : α) (result : β) (consumed : between.reader.consumed = front.reverse ++ session.reader.consumed)
    (remaining : session.reader.remaining = front ++ between.reader.remaining)
    (again : ∀ tail, rule (session.facing (front ++ (back ++ tail))) = .ok value (between.facing (back ++ tail)))
    (second : Alone (next value) between back result later) : Alone (rule >>= next) session (front ++ back) result later := by
  constructor
  · rw [second.consumed, consumed, List.reverse_append, List.append_assoc]
  · rw [remaining, second.remaining, List.append_assoc]
  · intro tail
    rw [List.append_assoc, bind_passed _ _ _ _ _ (again tail), second.again tail]

-- The first rule may look one token further, and that token belongs to the second one.
theorem alone_behind (rule : Rule α) (next : α → Rule β) (session between later : Session) (front back : List Token)
    (value : α) (result : β) (first : Passes rule session front value between) (filled : back ≠ [])
    (second : Alone (next value) between back result later) : Alone (rule >>= next) session (front ++ back) result later := by
  obtain ⟨token, rest, rfl⟩ := List.exists_cons_of_ne_nil filled
  refine alone_bind _ _ _ _ _ _ _ _ _ first.consumed first.remaining (fun tail => first.again _ ?_) second
  rw [second.remaining]
  rfl

theorem alone_command (jitter : Jitter) (session later : Session) (first : Command Number)
    (done : command jitter session = .ok first later) : ∃ text, Alone (command jitter) session text first later := by
  obtain ⟨word, behindWord, operatorRead, done⟩ := (bind_ok _ _ _ _ _).mp done
  obtain ⟨object, behindObject, objectRead, done⟩ := (bind_ok _ _ _ _ _).mp done
  obtain ⟨token, behindToken, terminatorRead, done⟩ := (bind_ok _ _ _ _ _).mp done
  obtain ⟨front, _, operatorPasses⟩ := (located_operator.locates session).passes word behindWord operatorRead
  obtain ⟨middle, _, objectPasses⟩ := ((located_figure jitter).locates behindWord).passes object behindObject objectRead
  have terminator := alone_take _ _ behindObject behindToken token terminatorRead
  -- The operator and the figure may look ahead by one token, which the terminator ends.
  have noted := alone_aside _ (aside_bind _ _ (aside_note _) fun _ => aside_pure _) behindToken later first done
  refine ⟨front ++ (middle ++ ([token] ++ [])), ?_⟩
  refine alone_behind _ _ _ _ _ _ _ _ _ operatorPasses (by simp) ?_
  refine alone_behind _ _ _ _ _ _ _ _ _ objectPasses (List.cons_ne_nil _ _) ?_
  exact alone_bind _ _ _ _ _ _ _ _ _ terminator.consumed terminator.remaining (fun _ => terminator.again _) noted

end Rule

-- The sessions between the commands, with what was read so far.
inductive Reaches (jitter : Jitter) : Session → Drawing → Session → Prop where
  | start (session : Session) : Reaches jitter session [] session
  | onward (session between later : Session) (first : Command Number) (rest : Drawing)
      (read : Rule.command jitter session = .ok first between) (behind : Reaches jitter between rest later) :
      Reaches jitter session (first :: rest) later

theorem reaches_commands (jitter : Jitter) (session middle : Session) (drawing : Drawing)
    (reaches : Reaches jitter session drawing middle) : Rule.commands jitter session =
      (do return drawing ++ (← Rule.commands jitter) : Rule Drawing) middle := by
  induction reaches with
  | start session =>
      simp only [bind, EStateM.bind, pure, EStateM.pure, List.nil_append]
      cases Rule.commands jitter session <;> rfl
  | onward session between later first rest read _ ih =>
      have consumed := Rule.Consumes.command jitter session first between read
      have more : session.reader.remaining ≠ [] := by
        intro none
        rw [none, List.length_nil] at consumed
        omega
      rw [Rule.commands_step jitter session more, Rule.bind_passed _ _ _ _ _ read]
      simp only [bind, EStateM.bind, pure, EStateM.pure] at ih ⊢
      rw [ih]
      cases Rule.commands jitter later <;> rfl

theorem commands_reach (jitter : Jitter) (session later : Session) (drawing : Drawing)
    (done : Rule.commands jitter session = .ok drawing later) :
    later.reader.remaining = [] ∧ later.reader.consumed = session.reader.remaining.reverse ++ session.reader.consumed ∧
      ∀ tail, Reaches jitter (session.facing (session.reader.remaining ++ tail)) drawing (later.facing tail) := by
  by_cases ended : session.reader.remaining = []
  · rw [Rule.commands_end jitter session ended] at done
    cases done
    refine ⟨ended, ?_, fun tail => ?_⟩
    · rw [ended]
      rfl
    · rw [ended]
      exact .start _
  · obtain ⟨first, between, rest, read, restRead, rfl⟩ := (Rule.commands_more jitter session later drawing ended).mp done
    -- The rest is shorter by the tokens of the first command, which is read the same way in front of more tokens.
    have shorter := Rule.Consumes.command jitter session first between read
    obtain ⟨finished, consumed, reaches⟩ := commands_reach jitter between later rest restRead
    obtain ⟨text, alone⟩ := Rule.alone_command jitter session between first read
    refine ⟨finished, ?_, fun tail => ?_⟩
    · rw [consumed, alone.consumed, alone.remaining, List.reverse_append, List.append_assoc]
    · refine .onward _ _ _ first rest ?_ (reaches tail)
      rw [alone.remaining, List.append_assoc]
      exact alone.again _
termination_by session.reader.remaining.length

theorem accepted_reaches (jitter : Jitter) (first second : List Token) (drawing : Drawing) (session : Session)
    (accepted : Reading.ofTokens jitter first = .finished drawing session) : ∃ middle,
      Reaches jitter ⟨.ofTokens (first ++ second), [], [], []⟩ drawing middle ∧ middle.reader = ⟨first.reverse, second⟩ ∧
        middle.table = session.table ∧ middle.requests = session.requests := by
  have filled : first ≠ [] := by
    rintro rfl
    cases accepted
  obtain ⟨token, rest, rfl⟩ := List.exists_cons_of_ne_nil filled
  have done := (of_tokens_cons jitter token rest drawing session).mp accepted
  obtain ⟨commands, between, read, closed⟩ := (Rule.bind_ok _ _ _ _ _).mp done
  -- Behind the last command only the journal is written to.
  cases closed
  obtain ⟨_, consumed, reaches⟩ := commands_reach jitter _ between drawing read
  refine ⟨between.facing second, reaches second, ?_, rfl, rfl⟩
  rw [Session.facing, consumed]
  exact congrArg (Reader.mk · second) (List.append_nil _)

-- What follows commands that were read, beside a reading of its own that starts with their table and their draws.
inductive Continued (before : Nat) (drawing : Drawing) : EStateM.Result Fault Session Drawing → Reading → Prop where
  | finished (rest : Drawing) (later last : Session)
      (same : last.standing = (before + later.reader.position, later.table, later.requests)) :
      Continued before drawing (.ok rest later) (.finished (drawing ++ rest) last)
  | stopped (fault : Fault) (later last : Session)
      (same : last.standing = (before + later.reader.position, later.table, later.requests)) :
      Continued before drawing (.error fault later) (.stopped fault last)

def Rule.drawingBehind (jitter : Jitter) (before : Drawing) : Rule Drawing := do
  let rest ← Rule.commands jitter
  let names ← Rule.tableSize
  Rule.note (.finished (before ++ rest).length names)
  return before ++ rest

theorem drawing_behind (jitter : Jitter) (session middle : Session) (before : Drawing)
    (reaches : Reaches jitter session before middle) :
    Rule.drawing jitter session = Rule.drawingBehind jitter before middle := by
  have read := reaches_commands jitter session middle before reaches
  simp only [Rule.drawing, Rule.drawingBehind, bind, EStateM.bind, pure, EStateM.pure] at read ⊢
  rw [read]
  cases Rule.commands jitter middle <;> rfl

theorem behind_lockstep (row : List (Token × Token)) (earlier : List Token) (spelled : Spelled row) (jitter : Jitter)
    (before : Drawing) : Lockstep (twinLikeness row earlier) (fun rest whole => whole = before ++ rest)
      (Rule.drawing jitter) (Rule.drawingBehind jitter before) := by
  refine Rule.lockstep_bind _ _ _ _ _ _ (Rule.lockstep_commands (Rule.twins_paired spelled jitter)) fun rest rest' alike => ?_
  cases drawing_alike_eq rest rest' alike
  refine Rule.lockstep_look _ Rule.tableSize Rule.tableSize _ _ _ _ (fun _ => rfl) (fun _ => rfl) fun session around twins => ?_
  refine Rule.lockstep_bind _ _ _ _ Eq _ (Rule.twin_note _ _) (fun _ _ _ => ?_) session around twins
  exact Rule.lockstep_pure _ rest (before ++ rest) rfl

theorem continued_behind (jitter : Jitter) (before : Drawing) (earlier second : List Token) (table : Table)
    (requests : List Bounds) (journal : List Event) :
    Continued earlier.length before (Rule.drawing jitter ⟨.ofTokens second, table, requests, []⟩)
      (match Rule.drawingBehind jitter before ⟨⟨earlier, second⟩, table, requests, journal⟩ with
        | .error fault later => .stopped fault later
        | .ok drawing later => .finished drawing later) := by
  by_cases ended : second = []
  · -- Without tokens there is no command to compare, and both readings end where they start.
    subst ended
    have first := Rule.commands_end jitter ⟨.ofTokens [], table, requests, []⟩ rfl
    have other := Rule.commands_end jitter ⟨⟨earlier, []⟩, table, requests, journal⟩ rfl
    rw [Rule.drawing, Rule.drawingBehind, Rule.bind_passed _ _ _ _ _ first, Rule.bind_passed _ _ _ _ _ other]
    exact .finished [] _ _ rfl
  · -- Every token is its own twin; only what was consumed before differs.
    have spelled : Spelled (second.map fun token => (token, token)) :=
      ⟨fun pair inside => by obtain ⟨token, _, rfl⟩ := List.mem_map.mp inside; exact ⟨rfl, rfl⟩, by simpa using ended⟩
    have start := twins_start (second.map fun token => (token, token)) earlier table requests [] journal
    rw [List.map_map, List.map_map] at start
    have ends := behind_lockstep _ earlier spelled jitter before _ _ start
    simp only [Function.comp_def, List.map_id'] at ends
    rw [Reader.ofTokens]
    generalize Rule.drawing jitter ⟨⟨[], second⟩, table, requests, []⟩ = left at ends ⊢
    generalize Rule.drawingBehind jitter before ⟨⟨earlier, second⟩, table, requests, journal⟩ = right at ends ⊢
    cases ends with
    | passed rest _ later last same twins =>
        cases same
        exact .finished rest later last (twins_standing _ earlier later last twins)
    | stopped fault fault' later last same twins =>
        cases same with
        | violation expected pair inside =>
            obtain ⟨token, _, rfl⟩ := List.mem_map.mp inside
            exact .stopped _ later last (twins_standing _ earlier later last twins)
        | overflow cause => exact .stopped _ later last (twins_standing _ earlier later last twins)

theorem later_commands_disturb_nothing (jitter : Jitter) (first second : List Token) (drawing : Drawing)
    (session : Session) (accepted : Reading.ofTokens jitter first = .finished drawing session) :
    ∃ middle, Reaches jitter ⟨.ofTokens (first ++ second), [], [], []⟩ drawing middle ∧
      middle.standing = (first.length, session.table, session.requests) ∧ middle.reader.remaining = second ∧
        Continued first.length drawing (Rule.drawing jitter ⟨.ofTokens second, session.table, session.requests, []⟩)
          (Reading.ofTokens jitter (first ++ second)) := by
  obtain ⟨middle, reaches, reader, table, requests⟩ := accepted_reaches jitter first second drawing session accepted
  refine ⟨middle, reaches, ?_, by rw [reader], ?_⟩
  · rw [Session.standing, Reader.position, reader, List.length_reverse, table, requests]
  · have filled : first ++ second ≠ [] := by
      intro none
      rw [(List.append_eq_nil_iff.mp none).1] at accepted
      cases accepted
    have continued := continued_behind jitter drawing first.reverse second session.table session.requests middle.journal
    rw [List.length_reverse, ← table, ← requests, ← reader] at continued
    rw [of_tokens_drawing jitter _ filled, drawing_behind jitter _ middle drawing reaches, ← table, ← requests]
    exact continued

-- Behind the segment there is no figure to draw: one token more is consumed, and the point of the segment is kept.
theorem broken_tail_stops : ∃ drawing session last,
    Reading.ofTokens (.cycle [3, 4]) Grammar.sharedSegment.tokens = .finished drawing session ∧
      Reading.ofTokens (.cycle [3, 4]) (Grammar.sharedSegment.tokens ++ bareOperator) =
        .stopped (.violation ⟨.objectName, 5, "."⟩) last ∧ last.standing = (6, session.table, session.requests) := by
  have first : Reading.ofTokens (.cycle [3, 4]) Grammar.sharedSegment.tokens =
      .finished [⟨"DRAW", .line ⟨.segment, ⟨"A", ⟨.integer 3, .integer 4⟩⟩, ⟨"A", ⟨.integer 3, .integer 4⟩⟩⟩⟩]
        ⟨⟨Grammar.sharedSegment.tokens.reverse, []⟩, [("A", ⟨.integer 3, .integer 4⟩)], [Jitter.bounds, Jitter.bounds],
          [.inferred "A" ⟨.integer 3, .integer 4⟩, .command "DRAW" "segment", .finished 1 1]⟩ := by cbv
  obtain ⟨_, _, _, _, continued⟩ := later_commands_disturb_nothing (.cycle [3, 4]) _ bareOperator _ _ first
  rw [bare_operator_stops] at continued
  generalize whole : Reading.ofTokens (.cycle [3, 4]) (Grammar.sharedSegment.tokens ++ bareOperator) = reading at continued
  cases continued with
  | stopped _ _ last same => exact ⟨_, _, last, first, rfl, same⟩

end Straightedge
