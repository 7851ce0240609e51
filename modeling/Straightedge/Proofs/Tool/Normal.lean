import Straightedge.Proofs.Jitter.Bounded
import Straightedge.Proofs.Parse.Resolve
import Straightedge.Proofs.Write.Finite
import Straightedge.Proofs.Write.RoundTrip
import Straightedge.Proofs.Parse.Accept
import Straightedge.Tool.Run

namespace Straightedge

-- What a source gives when it is read can be written as a source.

theorem occurrence_token (tokens : List Token) : ∀ occurrence ∈ occurrences tokens,
    ∃ token ∈ tokens, token.category = .identifier ∧ token.value = occurrence.name := by
  induction tokens with
  | nil => exact fun _ none => (List.not_mem_nil none).elim
  | cons token rest ih =>
      intro occurrence inside
      rw [occurrences] at inside
      split at inside
      · rename_i identifier
        rcases List.mem_cons.mp inside with rfl | among
        · exact ⟨token, List.mem_cons_self, identifier, rfl⟩
        · obtain ⟨other, later, found⟩ := ih occurrence among
          exact ⟨other, List.mem_cons_of_mem _ later, found⟩
      · obtain ⟨other, later, found⟩ := ih occurrence inside
        exact ⟨other, List.mem_cons_of_mem _ later, found⟩

theorem number_writable (value : Number) (finite : value.isFinite = true) : value.Writable := by
  cases value with
  | integer n => exact (Number.integer_finite n).mp finite
  | real value => exact finite

theorem operators_known (trees : List Grammar.Command) (drawing : Drawing)
    (yields : List.Forall₂ Grammar.Command.Yields trees drawing)
    (known : ∀ tree ∈ trees, tree.operator.value ∈ Vocabulary.operators) :
    ∀ command ∈ drawing, command.operator ∈ Vocabulary.operators := by
  induction yields with
  | nil => exact fun _ none => (List.not_mem_nil none).elim
  | cons head _ ih =>
      obtain ⟨first, others⟩ := List.forall_mem_cons.mp known
      exact List.forall_mem_cons.mpr ⟨head.1 ▸ first, ih others⟩

theorem operator_in_task (tree : Grammar.Task) (command : Grammar.Command) (inside : command ∈ tree.commands) :
    command.operator.token ∈ tree.tokens :=
  List.mem_flatMap.mpr ⟨command, inside, List.mem_cons_self⟩

theorem finished_writable (jitter : Jitter) (source : String) (tokens : List Token) (drawing : Drawing)
    (session : Session) (split : tokenize source = .ok tokens)
    (done : Reading.ofTokens jitter tokens = .finished drawing session) (finite : AllFinite drawing.points) :
    drawing ≠ [] ∧ ∀ command ∈ drawing, command.Writable := by
  have telling := tokenize_telling source tokens split
  -- The names of the points are those of identifiers, and the operators are operator tokens.
  obtain ⟨run, _⟩ := reading_run jitter tokens drawing session done
  have named : ∀ point ∈ drawing.points, IsName point.name := by
    intro point inside
    have among := List.mem_map_of_mem (f := Point.name) inside
    rw [run.names] at among
    obtain ⟨occurrence, there, same⟩ := List.mem_map.mp among
    obtain ⟨token, tokenThere, identifier, value⟩ := occurrence_token tokens occurrence there
    rw [← same, ← value]
    exact (telling token tokenThere).name identifier
  obtain ⟨_, tree, rfl, yields, _⟩ := reading_sound jitter tokens drawing session done
  have known := operators_known tree.commands drawing yields fun command inside =>
    (telling _ (operator_in_task tree command inside)).operator rfl
  refine ⟨?_, fun command inside => ⟨known command inside, fun point among => ?_⟩⟩
  · rintro rfl
    cases yields
  · have there : point ∈ drawing.points := List.mem_flatMap.mpr ⟨command, inside, among⟩
    exact ⟨named point there, number_writable _ (finite point there).1, number_writable _ (finite point there).2⟩

-- The source that a drawing is written as gives the drawing again, and the same table.

theorem written_derives (drawing : Drawing) (filled : drawing ≠ []) (writable : ∀ command ∈ drawing, command.Writable) :
    ∃ text, ∃ tree : Grammar.Task, Task.write drawing = .ok text ∧ tokenize text = .ok tree.tokens ∧
      tree.Yields drawing ∧ tree.points.map Grammar.Point.occurrence = drawing.points.map Point.full := by
  obtain ⟨texts, written, spelled⟩ := lines_spelled drawing writable
  obtain ⟨trees, spells, yields, full⟩ := spelled 0
  have scanned := spells []
  rw [List.append_nil, Nat.zero_add, scan_finish _ 0 [] rfl] at scanned
  have tokens : tokenize (joinLines (texts.map String.ofList)) = .ok (trees.flatMap Grammar.Command.tokens) := by
    rw [tokenize, join_lines_text, scanned]
    exact congrArg Except.ok (List.append_nil _)
  have lines := write_lines_ok Command.write drawing _ (List.forall₂_map_right_iff.mpr written)
  cases yields with
  | nil => exact absurd rfl filled
  | @cons tree _ trees _ head tail => exact ⟨_, ⟨tree, trees⟩, lines, tokens, .cons head tail, full⟩

theorem written_read_back (jitter : Jitter) (drawing : Drawing) (text : String) (filled : drawing ≠ [])
    (writable : ∀ command ∈ drawing, command.Writable) (written : Task.write drawing = .ok text) :
    ∃ session, Reading.ofSource jitter text = .finished drawing session ∧ session.table = digest drawing.points := by
  obtain ⟨other, tree, same, tokens, yields, full⟩ := written_derives drawing filled writable
  rw [written] at same
  cases same
  have clear := Grammar.task_clear tree (tokenize_disciplined text _ tokens)
  -- Every point is written with its coordinates, so nothing is inferred and the jitter is never asked.
  obtain ⟨memory, placed, _⟩ := full_places_all jitter Memory.empty drawing.points
  rw [← full] at placed
  obtain ⟨session, read, _⟩ := reading_complete jitter tree drawing memory clear yields placed
  obtain ⟨_, table⟩ := reading_run jitter tree.tokens drawing session read
  refine ⟨session, ?_, table⟩
  rw [Reading.ofSource, tokens]
  exact read

def literalRun (workspace : Workspace) (unseeded : Jitter) (source : String) (format : Format) (seed : Seed) :
    Except Failure String :=
  (run workspace unseeded ⟨source, true, some format.name, none, seed⟩).result

theorem literal_run_seeded (workspace : Workspace) (unseeded jitter : Jitter) (source : String) (format : Format)
    (seed : Seed) (given : Request.jitter ⟨source, true, some format.name, none, seed⟩ unseeded = .ok jitter) :
    literalRun workspace unseeded source format seed = renderReading format (Reading.ofSource jitter source) := by
  have prepared : prepare workspace unseeded ⟨source, true, some format.name, none, seed⟩ = .ok (format, jitter, source) := by
    have known : Format.ofName? format.name = some format := by cases format <;> rfl
    rw [prepare, Option.bind_some, known]
    simp only [Request.readSource, given]
    rfl
  rw [literalRun, run, prepared]
  dsimp only
  cases renderReading format (Reading.ofSource jitter source) <;> rfl

theorem seed_given (request : Request) (unseeded : Jitter) (given : request.seed ≠ .blank) :
    ∃ jitter, request.jitter unseeded = .ok jitter := by
  rw [Request.jitter]
  cases seed : request.seed with
  | free => exact ⟨unseeded, rfl⟩
  | blank => exact absurd seed given
  | fixed value => exact ⟨.seeded value, rfl⟩

theorem rendered_source (reading : Reading) (text : String) (rendered : renderReading .source reading = .ok text) :
    ∃ drawing session, reading = .finished drawing session ∧ Task.write drawing = .ok text := by
  cases reading with
  | unsplit error => cases rendered
  | empty error => cases rendered
  | stopped fault session => cases rendered
  | finished drawing session =>
      have written : (Task.write drawing).mapError Failure.unwritable = .ok text := rendered
      refine ⟨drawing, session, rfl, ?_⟩
      cases found : Task.write drawing with
      | ok other =>
          rw [found] at written
          cases written
          rfl
      | error error =>
          rw [found] at written
          cases written

theorem written_all_finite (drawing : Drawing) (text : String)
    (integers : ∀ point ∈ drawing.points, point.coords.IntegersFinite) (written : Task.write drawing = .ok text) :
    AllFinite drawing.points := by
  rcases task_writes drawing integers with ⟨finite, _⟩ | ⟨_, _, _, failed⟩
  · exact finite
  · rw [written] at failed
    cases failed

/-- The normal form of a source is told the same about as the source, with the order of the points and the kinds
of numbers, and is its own normal form, whatever the seed. -/
theorem normal_form_tells_the_same (workspace : Workspace) (unseeded : Jitter) (source text : String) (seed : Int)
    (normal : literalRun workspace unseeded source .source (.fixed seed) = .ok text) :
    ∃ report, literalRun workspace unseeded source .document (.fixed seed) = .ok report ∧
      ∀ workspace' unseeded' seed', seed' ≠ .blank →
        literalRun workspace' unseeded' text .document seed' = .ok report ∧
          literalRun workspace' unseeded' text .source seed' = .ok text := by
  rw [literal_run_seeded _ _ (.seeded seed) _ _ _ rfl] at normal
  obtain ⟨drawing, session, read, written⟩ := rendered_source _ text normal
  obtain ⟨tokens, split, done⟩ := finished_split _ source drawing session read
  obtain ⟨run, table⟩ := reading_run _ tokens drawing session done
  have finite := written_all_finite drawing text (run_integers_finite run (seeded_bounded seed)) written
  -- The drawing was written, so all its numbers are finite and it can be written and read once more.
  obtain ⟨filled, writable⟩ := finished_writable _ source tokens drawing session split done finite
  refine ⟨(reportDocument drawing session.table).print 0, ?_, fun workspace' unseeded' seed' given => ?_⟩
  · rw [literal_run_seeded _ _ (.seeded seed) _ _ _ rfl, read]
    rfl
  · obtain ⟨jitter, drawn⟩ := seed_given ⟨text, true, none, none, seed'⟩ unseeded' given
    obtain ⟨again, readAgain, tableAgain⟩ := written_read_back jitter drawing text filled writable written
    rw [literal_run_seeded _ _ jitter _ _ _ drawn, literal_run_seeded _ _ jitter _ _ _ drawn, readAgain]
    refine ⟨?_, ?_⟩
    · rw [table, ← tableAgain]
      rfl
    · exact congrArg (Except.mapError Failure.unwritable) written

-- The first point is inferred from no other and kept, and its name is written afresh as the apex.
def redefinedSource : String := "draw triangle A A B(0.5,-0). mark perpendicular A(1,02) segment B A."

def Grammar.redefinedApex : Grammar.Task :=
  have zero : (0 : Int).natAbs < Binary64.rangeEnd := by decide +kernel
  have one : (1 : Int).natAbs < Binary64.rangeEnd := by decide +kernel
  have two : (2 : Int).natAbs < Binary64.rangeEnd := by decide +kernel
  have half : Literal.real? "0.5" = some (.ofDecimal false 5 (-1)) := by decide +kernel
  have finite : (Binary64.ofDecimal false 5 (-1)).isFinite = true := by decide +kernel
  ⟨⟨⟨"DRAW", 0⟩, .triangle ⟨5⟩ ⟨none, ⟨"A", 14⟩, none⟩ ⟨none, ⟨"A", 16⟩, none⟩ ⟨none, ⟨"B", 18⟩,
      some ⟨⟨19⟩, ⟨_, _, .real "0.5" 20 _ half finite⟩, ⟨23⟩, ⟨_, _, .integer "-0" 24 0 (by decide) zero⟩, ⟨26⟩⟩⟩, ⟨27⟩⟩,
    [⟨⟨"MARK", 29⟩, .perpendicular ⟨34⟩ ⟨none, ⟨"A", 48⟩, some ⟨⟨49⟩, ⟨_, _, .integer "1" 50 1 (by decide) one⟩, ⟨51⟩,
        ⟨_, _, .integer "02" 52 2 (by decide) two⟩, ⟨54⟩⟩⟩
      ⟨.segment, ⟨56⟩, ⟨none, ⟨"B", 64⟩, none⟩, ⟨none, ⟨"A", 66⟩, none⟩⟩, ⟨67⟩⟩]⟩

theorem redefined_apex_split : tokenize redefinedSource = .ok Grammar.redefinedApex.tokens := by
  decide +kernel

theorem redefined_apex_steady (jitter : Jitter) (bounded : jitter.Bounded) (points : List (Point Number)) :
    Steady jitter (occurrences Grammar.redefinedApex.tokens) points := by
  have seen : occurrences Grammar.redefinedApex.tokens = [⟨"A", none⟩, ⟨"A", none⟩,
      ⟨"B", some ⟨.real (.ofDecimal false 5 (-1)), .integer 0⟩⟩, ⟨"A", some ⟨.integer 1, .integer 2⟩⟩, ⟨"B", none⟩,
      ⟨"A", none⟩] := by decide +kernel
  rw [seen]
  -- Only the first of the points is new and without coordinates.
  intro i occurrence found new
  rcases i with _ | _ | _ | _ | _ | _ | i
  · exact ⟨first_sum_in_range bounded 0, first_sum_in_range bounded 1⟩
  case succ.succ.succ.succ.succ.succ => cases found
  all_goals
    cases found
    cases new

theorem redefined_apex_normal (workspace : Workspace) (unseeded : Jitter) : ∃ text,
    literalRun workspace unseeded redefinedSource .source (.fixed 0) = .ok text := by
  have bounded := seeded_bounded 0
  have clear := Grammar.task_clear _ (tokenize_disciplined _ _ redefined_apex_split)
  obtain ⟨drawing, session, done⟩ := derivation_accepted (.seeded 0) bounded _ clear
  obtain ⟨run, _⟩ := reading_run _ _ drawing session done
  rw [literal_run_seeded _ _ (.seeded 0) _ _ _ rfl, reading_of_source _ _ _ redefined_apex_split, done]
  rcases task_writes drawing (run_integers_finite run bounded) with ⟨_, text, written⟩ | ⟨beyond, _⟩
  · exact ⟨text, congrArg (Except.mapError Failure.unwritable) written⟩
  · exact absurd ((run_finite_iff run bounded).mpr (redefined_apex_steady _ bounded _)) beyond

theorem redefined_apex_tells_the_same : ∃ text,
    literalRun ⟨[], [], .empty⟩ (.cycle []) redefinedSource .source (.fixed 0) = .ok text ∧
      ∃ report, literalRun ⟨[], [], .empty⟩ (.cycle []) redefinedSource .document (.fixed 0) = .ok report ∧
        literalRun ⟨[], [], .empty⟩ (.cycle [5]) text .document .free = .ok report ∧
          literalRun ⟨[], [], .empty⟩ (.cycle [5]) text .source (.fixed 7) = .ok text := by
  obtain ⟨text, normal⟩ := redefined_apex_normal ⟨[], [], .empty⟩ (.cycle [])
  obtain ⟨report, told, again⟩ := normal_form_tells_the_same _ _ _ _ 0 normal
  exact ⟨text, normal, report, told, (again _ _ .free Seed.noConfusion).1, (again _ _ (.fixed 7) Seed.noConfusion).2⟩

end Straightedge
