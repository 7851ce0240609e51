import Straightedge.Proofs.Parse.Accept
import Straightedge.Proofs.Parse.Located
import Straightedge.Proofs.Parse.Safe

namespace Straightedge

def Accepted (jitter : Jitter) (tokens : List Token) : Prop :=
  ∃ drawing session, Reading.ofTokens jitter tokens = .finished drawing session

-- The tokens are all right as far as they go.
structure EndsEarly (jitter : Jitter) (tokens : List Token) (error : SyntaxError) (session : Session) : Prop where
  consumed : session.reader.remaining = [] ∧ session.reader.position = tokens.length
  shown : ∃ last ∈ tokens.getLast?, error.offset = last.offset ∧ error.actual = last.value
  viable : ∃ rest, rest ≠ [] ∧ Disciplined (tokens ++ rest) ∧ Accepted jitter (tokens ++ rest)
  rejected : ¬Accepted jitter tokens

-- The tokens in front of the index are all right, and the one there cannot follow them.
structure BreaksAt (jitter : Jitter) (tokens : List Token) (error : SyntaxError) (session : Session) (i : Nat) : Prop where
  shown : ∃ token ∈ tokens[i]?, error.offset = token.offset ∧ error.actual = token.value
  viable : ∃ rest, Disciplined (tokens.take i ++ rest) ∧ Accepted jitter (tokens.take i ++ rest)
  dead : ∀ rest, ¬Accepted jitter (tokens.take (i + 1) ++ rest)
  position : session.reader.position = if error.expected.Peeks then i else i + 1

theorem ends_not_breaks (jitter : Jitter) (tokens : List Token) (error : SyntaxError) (session : Session) (i : Nat)
    (ends : EndsEarly jitter tokens error session) (breaks : BreaksAt jitter tokens error session i) : False := by
  -- The completion of all the tokens is one of what stands up to the index.
  obtain ⟨rest, _, _, accepted⟩ := ends.viable
  refine breaks.dead (tokens.drop (i + 1) ++ rest) ?_
  rwa [← List.append_assoc, List.take_append_drop]

theorem breaks_not_before (jitter : Jitter) (tokens : List Token) (error : SyntaxError) (session : Session) (i j : Nat)
    (first : BreaksAt jitter tokens error session i) (second : BreaksAt jitter tokens error session j) : ¬i < j := by
  intro before
  obtain ⟨rest, _, accepted⟩ := second.viable
  refine first.dead ((tokens.take j).drop (i + 1) ++ rest) ?_
  have front : tokens.take (i + 1) = (tokens.take j).take (i + 1) := by rw [List.take_take, min_eq_left before]
  rwa [front, ← List.append_assoc, List.take_append_drop]

theorem begins_accepted (jitter : Jitter) (bounded : jitter.Bounded) (text : List Token) (disciplined : Disciplined text)
    (begins : Begins Rule.CommandRow text) :
    ∃ rest, Disciplined (text ++ rest) ∧ Accepted jitter (text ++ rest) := by
  obtain ⟨middle, ⟨trees, split⟩, middleFine⟩ := begins
  have row : trees.flatMap Grammar.Command.tokens = text ++ middle := split.symm
  -- One more command, since there may be none so far.
  obtain ⟨last, ⟨tree, lastSame⟩, lastFine⟩ := (Rule.located_command jitter).possible
  obtain ⟨first, others, shape⟩ : ∃ first others, trees ++ [tree] = first :: others :=
    List.exists_cons_of_ne_nil (List.append_ne_nil_of_right_ne_nil _ (List.cons_ne_nil _ _))
  have whole : (Grammar.Task.mk first others).tokens = text ++ (middle ++ last) := by
    rw [Grammar.Task.tokens, Grammar.Task.commands, ← shape, List.flatMap_append, List.flatMap_singleton, row,
      ← lastSame, List.nil_append, List.append_assoc]
  have fine : Disciplined (text ++ (middle ++ last)) :=
    List.forall_mem_append.mpr ⟨disciplined, List.forall_mem_append.mpr ⟨middleFine, lastFine⟩⟩
  rw [← whole] at fine
  have accepted := derivation_accepted jitter bounded _ (Grammar.task_clear _ fine)
  rw [whole] at fine accepted
  exact ⟨middle ++ last, fine, accepted⟩

theorem of_tokens_drawing (jitter : Jitter) (tokens : List Token) (filled : tokens ≠ []) :
    Reading.ofTokens jitter tokens = match Rule.drawing jitter ⟨.ofTokens tokens, [], [], []⟩ with
      | .error fault later => .stopped fault later
      | .ok drawing later => .finished drawing later := by
  obtain ⟨token, rest, rfl⟩ := List.exists_cons_of_ne_nil filled
  rfl

theorem of_tokens_stopped (jitter : Jitter) (tokens : List Token) (filled : tokens ≠ []) (fault : Fault) (session : Session) :
    Reading.ofTokens jitter tokens = .stopped fault session ↔
      Rule.drawing jitter ⟨.ofTokens tokens, [], [], []⟩ = .error fault session := by
  rw [of_tokens_drawing jitter tokens filled]
  cases Rule.drawing jitter ⟨.ofTokens tokens, [], [], []⟩ with
  | ok value later => simp
  | error fault later => rw [Reading.stopped.injEq, EStateM.Result.error.injEq]

theorem consumed_shown (tokens : List Token) (filled : tokens ≠ []) (session : Session)
    (consumed : session.reader.consumed = tokens.reverse) : session.reader.snapshot = (tokens.getLast filled).snapshot := by
  rw [Reader.snapshot, Reader.current?, consumed, List.head?_reverse, List.getLast?_eq_some_getLast filled]

theorem stopped_shows (jitter : Jitter) (tokens : List Token) (error : SyntaxError) (session : Session)
    (stopped : Reading.ofTokens jitter tokens = .stopped (.violation error) session) :
    ∃ token ∈ tokens, error = .unmet error.expected token.snapshot := by
  have filled : tokens ≠ [] := by
    rintro rfl
    cases stopped
  cases (Rule.locates_drawing jitter _).stops error session ((of_tokens_stopped jitter tokens filled _ _).mp stopped) with
  | ended consumed _ _ shown =>
      rw [consumed_shown tokens filled session (consumed.trans (List.append_nil _))] at shown
      exact ⟨_, List.getLast_mem filled, shown⟩
  | refused text token rest front _ shown =>
      have split : tokens = text ++ token :: rest := front
      exact ⟨token, split ▸ List.mem_append_right _ List.mem_cons_self, shown⟩

theorem ended_early (jitter : Jitter) (bounded : jitter.Bounded) (tokens : List Token) (filled : tokens ≠ [])
    (disciplined : Disciplined tokens) (rejected : ¬Accepted jitter tokens) (error : SyntaxError) (session : Session)
    (consumed : session.reader.consumed = tokens.reverse) (remaining : session.reader.remaining = [])
    (begins : Begins Rule.CommandRow tokens)
    (shown : error = .unmet error.expected session.reader.snapshot) : EndsEarly jitter tokens error session := by
  obtain ⟨rest, fine, accepted⟩ := begins_accepted jitter bounded tokens disciplined begins
  -- The completion is proper: the tokens by themselves are rejected.
  have unfinished : rest ≠ [] := by
    rintro rfl
    rw [List.append_nil] at accepted
    exact rejected accepted
  have last := List.getLast?_eq_some_getLast filled
  refine ⟨⟨remaining, ?_⟩, ⟨tokens.getLast filled, last, ?_⟩, ⟨rest, unfinished, fine, accepted⟩, rejected⟩
  · rw [Reader.position, consumed, List.length_reverse]
  · rw [shown, consumed_shown tokens filled session consumed]
    exact ⟨rfl, rfl⟩

theorem broken_off (jitter : Jitter) (bounded : jitter.Bounded) (text : List Token) (token : Token) (rest : List Token)
    (disciplined : Disciplined (text ++ token :: rest)) (error : SyntaxError) (session : Session)
    (begins : Begins Rule.CommandRow text)
    (shown : error = .unmet error.expected token.snapshot)
    (consumed : session.reader.consumed = (if error.expected.Peeks then text else text ++ [token]).reverse)
    (again : ∀ tail, ∃ last, Rule.drawing jitter ⟨.ofTokens (text ++ token :: tail), [], [], []⟩ = .error (.violation error) last) :
    BreaksAt jitter (text ++ token :: rest) error session text.length := by
  constructor
  · refine ⟨token, Option.mem_def.mpr (by simp), ?_⟩
    rw [shown]
    exact ⟨rfl, rfl⟩
  · rw [List.take_left]
    exact begins_accepted jitter bounded text (disciplined_append _ _ disciplined).1 begins
  · -- Whatever stands behind the token, the drawing breaks off at it again.
    rintro tail ⟨drawing, last, done⟩
    have cut : (text ++ token :: rest).take (text.length + 1) ++ tail = text ++ token :: tail := by
      rw [List.take_length_add_append, List.append_assoc]
      rfl
    obtain ⟨broken, stopped⟩ := again tail
    rw [cut, of_tokens_drawing jitter _ (List.append_ne_nil_of_right_ne_nil _ (List.cons_ne_nil _ _)), stopped] at done
    cases done
  · rw [Reader.position, consumed, List.length_reverse]
    split
    · rfl
    · exact List.length_append

/-- A row of disciplined tokens that is rejected is reported with its first violation. -/
theorem rejected_at_first_violation (jitter : Jitter) (bounded : jitter.Bounded) (tokens : List Token)
    (filled : tokens ≠ []) (disciplined : Disciplined tokens) (rejected : ¬Accepted jitter tokens) :
    ∃ error session, Reading.ofTokens jitter tokens = .stopped (.violation error) session ∧
      ((EndsEarly jitter tokens error session ∧ ∀ i, ¬BreaksAt jitter tokens error session i) ∨
        ¬EndsEarly jitter tokens error session ∧ ∃ i, BreaksAt jitter tokens error session i ∧
          ∀ j, BreaksAt jitter tokens error session j → j = i) := by
  have reading := of_tokens_drawing jitter tokens filled
  rcases Rule.safe_drawing bounded ⟨.ofTokens tokens, [], [], []⟩ empty_convertible with
    ⟨drawing, session, done, _⟩ | ⟨error, session, stopped, _⟩
  · rw [done] at reading
    exact absurd ⟨drawing, session, reading⟩ rejected
  · rw [stopped] at reading
    refine ⟨error, session, reading, ?_⟩
    cases (Rule.locates_drawing jitter _).stops error session stopped with
    | ended consumed remaining begins shown =>
        have ends := ended_early jitter bounded tokens filled disciplined rejected error session
          (consumed.trans (List.append_nil _)) remaining begins shown
        exact .inl ⟨ends, fun i => ends_not_breaks jitter tokens error session i ends⟩
    | refused text token rest front begins shown consumed again =>
        have split : tokens = text ++ token :: rest := front
        subst split
        have breaks := broken_off jitter bounded text token rest disciplined error session begins shown
          (consumed.trans (List.append_nil _)) again
        refine .inr ⟨fun ends => ends_not_breaks jitter _ error session _ ends breaks, text.length, breaks, fun j other => ?_⟩
        have first := breaks_not_before jitter _ error session _ _ breaks other
        have second := breaks_not_before jitter _ error session _ _ other breaks
        omega

-- The source is `DRAW .`, in which there is no figure to draw.
def bareOperator : List Token := [⟨.operator, "DRAW", 0⟩, ⟨.separator, ".", 5⟩]

theorem bare_operator_stops (jitter : Jitter) (table : Table) (requests : List Bounds) :
    Rule.drawing jitter ⟨.ofTokens bareOperator, table, requests, []⟩ = .error (.violation ⟨.objectName, 5, "."⟩)
      ⟨⟨[⟨.operator, "DRAW", 0⟩], [⟨.separator, ".", 5⟩]⟩, table, requests, []⟩ := by
  have command : Rule.command jitter ⟨.ofTokens bareOperator, table, requests, []⟩ =
      .error (.violation ⟨.objectName, 5, "."⟩)
        ⟨⟨[⟨.operator, "DRAW", 0⟩], [⟨.separator, ".", 5⟩]⟩, table, requests, []⟩ := by rfl
  have commands := Rule.commands_step jitter ⟨.ofTokens bareOperator, table, requests, []⟩ (List.cons_ne_nil _ _)
  rw [Rule.bind_failed _ _ _ _ _ command] at commands
  rw [Rule.drawing, Rule.bind_failed _ _ _ _ _ commands]

theorem bare_operator_split : tokenize "DRAW ." = .ok bareOperator := by decide +kernel

theorem bare_operator_reading (jitter : Jitter) : Reading.ofSource jitter "DRAW ." =
    .stopped (.violation ⟨.objectName, 5, "."⟩) ⟨⟨[⟨.operator, "DRAW", 0⟩], [⟨.separator, ".", 5⟩]⟩, [], [], []⟩ := by
  have read : Reading.ofSource jitter "DRAW ." = Reading.ofTokens jitter bareOperator := by
    rw [Reading.ofSource, bare_operator_split]
  rw [read, of_tokens_drawing jitter bareOperator (List.cons_ne_nil _ _), bare_operator_stops]

theorem bare_operator_breaks : tokenize "DRAW ." = .ok bareOperator ∧ ¬Accepted (.cycle [3, 4]) bareOperator ∧
    ∃ error session, Reading.ofTokens (.cycle [3, 4]) bareOperator = .stopped (.violation error) session ∧
      BreaksAt (.cycle [3, 4]) bareOperator error session 1 := by
  have split := bare_operator_split
  have stopped : Reading.ofTokens (.cycle [3, 4]) bareOperator = .stopped (.violation ⟨.objectName, 5, "."⟩)
      ⟨⟨[⟨.operator, "DRAW", 0⟩], [⟨.separator, ".", 5⟩]⟩, [], [], []⟩ := by
    rw [of_tokens_drawing _ bareOperator (List.cons_ne_nil _ _), bare_operator_stops]
  have rejected : ¬Accepted (.cycle [3, 4]) bareOperator := by
    rintro ⟨drawing, session, done⟩
    rw [stopped] at done
    cases done
  have bounded : (Jitter.cycle [3, 4]).Bounded := cycle_bounded _ (by decide)
  obtain ⟨error, session, again, located⟩ := rejected_at_first_violation (.cycle [3, 4]) bounded bareOperator
    (List.cons_ne_nil _ _) (tokenize_disciplined _ _ split) rejected
  have same := again
  rw [stopped] at same
  cases same
  rcases located with ⟨ends, _⟩ | ⟨_, i, breaks, _⟩
  · cases ends.consumed.1
  · have position := breaks.position
    rw [if_pos object_name_peeks] at position
    have first : i = 1 := position.symm
    subst first
    exact ⟨split, rejected, _, _, again, breaks⟩

end Straightedge
