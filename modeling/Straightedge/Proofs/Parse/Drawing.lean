import Straightedge.Parse.Reading
import Straightedge.Proofs.Parse.Figure

namespace Straightedge

namespace Rule

theorem commands_end (jitter : Jitter) (session : Session) (ended : session.reader.remaining = []) :
    commands jitter session = .ok [] session := by
  rw [commands, Reader.hasNext, ended]
  rfl

theorem commands_more (jitter : Jitter) (session last : Session) (drawing : Drawing)
    (more : session.reader.remaining ≠ []) :
    commands jitter session = .ok drawing last ↔ ∃ first later rest, command jitter session = .ok first later ∧
      commands jitter later = .ok rest last ∧ drawing = first :: rest := by
  have hasNext : session.reader.hasNext = true := by simpa [Reader.hasNext] using more
  rw [commands, if_pos hasNext]
  constructor
  · intro done
    split at done
    · cases done
    · rename_i first later read
      split at done
      · cases done
      · rename_i rest last' readRest
        cases done
        exact ⟨first, later, rest, read, readRest, rfl⟩
  · rintro ⟨first, later, rest, read, readRest, rfl⟩
    split
    · rename_i failed
      rw [read] at failed
      cases failed
    · rename_i read'
      rw [read] at read'
      cases read'
      rw [readRest]

theorem commands_step (jitter : Jitter) (session : Session) (more : session.reader.remaining ≠ []) :
    commands jitter session =
      (do
        let first ← command jitter
        let rest ← commands jitter
        return first :: rest : Rule Drawing) session := by
  have hasNext : session.reader.hasNext = true := by simpa [Reader.hasNext] using more
  rw [commands, if_pos hasNext]
  simp only [bind, EStateM.bind, pure, EStateM.pure]
  split
  · rename_i stopped
    rw [stopped]
  · rename_i first later read
    rw [read]
    dsimp only
    cases commands jitter later <;> rfl

end Rule

theorem yields_aligned (tree : Grammar.Object) (figure : Figure Number) (yields : tree.Yields figure) :
    figure.points.length = tree.points.length := by
  cases tree <;> cases figure <;> first | rfl | cases yields

structure DrawsAll (jitter : Jitter) (trees : List Grammar.Command) (before : View) (drawing : Drawing)
    (after : View) : Prop where
  draws : Draws jitter before after (trees.flatMap Grammar.Command.tokens)
    (trees.flatMap fun tree => tree.object.points) drawing.points
  clear : ∀ tree ∈ trees, tree.Clear
  yields : List.Forall₂ Grammar.Command.Yields trees drawing

theorem draws_all_nil (jitter : Jitter) (before : View) (drawing : Drawing) (after : View) :
    DrawsAll jitter [] before drawing after ↔ drawing = [] ∧ after = before := by
  obtain ⟨ahead, memory⟩ := after
  constructor
  · rintro ⟨⟨aheadSame, placed⟩, _, yields⟩
    cases yields
    obtain ⟨_, _⟩ := before
    cases (Memory.places_all_nil _ _).mp placed
    cases aheadSame
    exact ⟨rfl, rfl⟩
  · rintro ⟨rfl, rfl⟩
    exact ⟨⟨rfl, .nil _⟩, fun _ none => (List.not_mem_nil none).elim, .nil⟩

theorem draws_all_cons (jitter : Jitter) (tree : Grammar.Command) (trees : List Grammar.Command) (before : View)
    (first : Command Number) (rest : Drawing) (after : View) :
    DrawsAll jitter (tree :: trees) before (first :: rest) after ↔
      ∃ between, (Draws jitter before between tree.tokens tree.object.points first.object.points ∧ tree.Clear ∧
        tree.Yields first) ∧ DrawsAll jitter trees between rest after := by
  constructor
  · rintro ⟨draws, clear, yields⟩
    obtain ⟨head, tail⟩ := List.forall₂_cons.mp yields
    obtain ⟨between, front, back⟩ := (draws_append _ _ _ _ _ _ _ _ _ (yields_aligned _ _ head.2)).mp draws
    obtain ⟨treeClear, treesClear⟩ := List.forall_mem_cons.mp clear
    exact ⟨between, ⟨front, treeClear, head⟩, back, treesClear, tail⟩
  · rintro ⟨between, ⟨front, treeClear, head⟩, back, treesClear, tail⟩
    exact ⟨(draws_append _ _ _ _ _ _ _ _ _ (yields_aligned _ _ head.2)).mpr ⟨between, front, back⟩,
      List.forall_mem_cons.mpr ⟨treeClear, treesClear⟩, .cons head tail⟩

namespace Rule

theorem commands_sound (jitter : Jitter) (session : Session) (drawing : Drawing) (later : Session)
    (done : commands jitter session = .ok drawing later) :
    later.view.ahead = [] ∧ ∃ trees, DrawsAll jitter trees session.view drawing later.view := by
  by_cases ended : session.reader.remaining = []
  · rw [commands_end jitter session ended] at done
    cases done
    exact ⟨ended, [], (draws_all_nil _ _ _ _).mpr ⟨rfl, rfl⟩⟩
  · obtain ⟨first, between, rest, read, readRest, rfl⟩ := (commands_more jitter session later drawing ended).mp done
    have shorter := Consumes.command jitter session first between read
    obtain ⟨tree, outcome⟩ := (realizes_command jitter).sound _ _ _ read
    obtain ⟨finished, trees, restOutcome⟩ := commands_sound jitter between rest later readRest
    exact ⟨finished, tree :: trees, (draws_all_cons _ _ _ _ _ _ _).mpr ⟨_, outcome, restOutcome⟩⟩
termination_by session.reader.remaining.length

theorem commands_complete (jitter : Jitter) (trees : List Grammar.Command) (session : Session) (drawing : Drawing)
    (after : View) (finished : after.ahead = []) (outcome : DrawsAll jitter trees session.view drawing after) :
    ∃ later, commands jitter session = .ok drawing later ∧ later.view = after := by
  induction trees generalizing session drawing with
  | nil =>
      obtain ⟨rfl, rfl⟩ := (draws_all_nil _ _ _ _).mp outcome
      exact ⟨session, commands_end jitter session finished, rfl⟩
  | cons tree trees ih =>
      obtain ⟨first, rest, rfl⟩ : ∃ first rest, drawing = first :: rest := by
        cases outcome.yields with
        | cons => exact ⟨_, _, rfl⟩
      obtain ⟨between, head, tail⟩ := (draws_all_cons _ _ _ _ _ _ _).mp outcome
      obtain ⟨middle, read, rfl⟩ := (realizes_command jitter).complete session first between ⟨tree, head⟩
      obtain ⟨later, readRest, rfl⟩ := ih middle rest tail
      have more : session.reader.remaining ≠ [] := by
        have front : session.reader.remaining = tree.tokens ++ middle.reader.remaining := head.1.ahead
        rw [front]
        exact List.cons_ne_nil _ _
      exact ⟨later, (commands_more jitter session later _ more).mpr ⟨first, middle, rest, read, readRest, rfl⟩, rfl⟩

theorem realizes_commands (jitter : Jitter) :
    Realizes (commands jitter) fun before drawing after =>
      after.ahead = [] ∧ ∃ trees, DrawsAll jitter trees before drawing after := by
  constructor
  · exact commands_sound jitter
  · rintro session drawing after ⟨finished, trees, outcome⟩
    exact commands_complete jitter trees session drawing after finished outcome

theorem realizes_drawing (jitter : Jitter) :
    Realizes (drawing jitter) fun before drawing after =>
      after.ahead = [] ∧ ∃ trees, DrawsAll jitter trees before drawing after := by
  refine realizes_congr _ _ _ (realizes_bind _ _ _ _ (realizes_commands jitter) fun _ =>
    realizes_bind _ _ _ _ (realizes_step tableSize (fun view => view.memory.table.length) id fun session => ⟨session, rfl, rfl⟩)
      fun _ => realizes_bind _ _ _ _ (realizes_note _) fun _ => realizes_pure _) fun before value after => ?_
  constructor
  · rintro ⟨_, _, outcome, _, _, ⟨_, rfl⟩, _, _, rfl, rfl, rfl⟩
    exact outcome
  · intro outcome
    exact ⟨_, _, outcome, _, _, ⟨rfl, rfl⟩, (), _, rfl, rfl, rfl⟩

end Rule

theorem of_tokens_cons (jitter : Jitter) (token : Token) (rest : List Token) (drawing : Drawing)
    (session : Session) :
    Reading.ofTokens jitter (token :: rest) = .finished drawing session ↔
      Rule.drawing jitter ⟨⟨[], token :: rest⟩, [], [], []⟩ = .ok drawing session := by
  have start : Session.start (token :: rest) = .ok ⟨⟨[], token :: rest⟩, [], [], []⟩ := rfl
  rw [Reading.ofTokens, start]
  dsimp only
  cases Rule.drawing jitter ⟨⟨[], token :: rest⟩, [], [], []⟩ with
  | ok value later => rw [Reading.finished.injEq, EStateM.Result.ok.injEq]
  | error fault later => simp

-- What is read to the end has a derivation.
theorem reading_sound (jitter : Jitter) (tokens : List Token) (drawing : Drawing) (session : Session)
    (done : Reading.ofTokens jitter tokens = .finished drawing session) :
    session.reader.remaining = [] ∧ ∃ tree : Grammar.Task, tree.tokens = tokens ∧ tree.Yields drawing ∧
      Memory.PlacesAll jitter Memory.empty (tree.points.map Grammar.Point.occurrence) drawing.points session.memory := by
  cases tokens with
  | nil => cases done
  | cons token rest =>
      obtain ⟨finished, trees, ⟨ahead, placed⟩, _, yields⟩ :=
        (Rule.realizes_drawing jitter).sound _ _ _ ((of_tokens_cons _ _ _ _ _).mp done)
      rw [finished, List.append_nil] at ahead
      cases trees with
      | nil => cases ahead
      | cons first others => exact ⟨finished, ⟨first, others⟩, ahead.symm, yields, placed⟩

theorem reading_complete (jitter : Jitter) (tree : Grammar.Task) (drawing : Drawing) (memory : Memory)
    (clear : tree.Clear) (yields : tree.Yields drawing)
    (placed : Memory.PlacesAll jitter Memory.empty (tree.points.map Grammar.Point.occurrence) drawing.points memory) :
    ∃ session, Reading.ofTokens jitter tree.tokens = .finished drawing session ∧ session.memory = memory := by
  have outcome : DrawsAll jitter tree.commands ⟨tree.tokens, Memory.empty⟩ drawing ⟨[], memory⟩ :=
    ⟨⟨(List.append_nil _).symm, placed⟩, clear, yields⟩
  obtain ⟨token, rest, front⟩ : ∃ token rest, tree.tokens = token :: rest := ⟨_, _, rfl⟩
  rw [front] at outcome ⊢
  obtain ⟨session, done, viewed⟩ := (Rule.realizes_drawing jitter).complete
    ⟨⟨[], token :: rest⟩, [], [], []⟩ drawing ⟨[], memory⟩ ⟨rfl, tree.commands, outcome⟩
  exact ⟨session, (of_tokens_cons _ _ _ _ _).mpr done, congrArg View.memory viewed⟩

theorem reading_of_source (jitter : Jitter) (source : String) (tokens : List Token) (split : tokenize source = .ok tokens) :
    Reading.ofSource jitter source = Reading.ofTokens jitter tokens := by
  rw [Reading.ofSource, split]

theorem finished_split (jitter : Jitter) (source : String) (drawing : Drawing) (session : Session)
    (read : Reading.ofSource jitter source = .finished drawing session) :
    ∃ tokens, tokenize source = .ok tokens ∧ Reading.ofTokens jitter tokens = .finished drawing session := by
  rw [Reading.ofSource] at read
  cases split : tokenize source with
  | error error =>
      rw [split] at read
      cases read
  | ok tokens =>
      rw [split] at read
      exact ⟨tokens, rfl, read⟩

end Straightedge
