import Straightedge.Proofs.Parse.Drawing
import Straightedge.Proofs.Place.Steady

namespace Straightedge

def writtenAhead? : List Token → Option (Coords Number)
  | mark :: x :: _ :: y :: _ =>
      if mark.category = .separator ∧ mark.value = Vocabulary.opening then do
        return ⟨← x.number?, ← y.number?⟩
      else none
  | _ => none

def occurrences : List Token → List Occurrence
  | [] => []
  | token :: rest =>
      if token.category = .identifier then ⟨token.value, writtenAhead? rest⟩ :: occurrences rest
      else occurrences rest

namespace Grammar

theorem occurrences_other (token : Token) (rest : List Token) (other : token.category ≠ .identifier) :
    occurrences (token :: rest) = occurrences rest := by
  rw [occurrences, if_neg other]

theorem numeral_other (numeral : Numeral) : numeral.token.category ≠ .identifier := by
  obtain ⟨_, _, denotes⟩ := numeral
  cases denotes <;> exact Category.noConfusion

theorem written_ahead_coords (coords : Coords) (rest : List Token) :
    writtenAhead? (coords.tokens ++ rest) = some coords.value := by
  have x := (number_denotes _ _).mpr coords.x.denotes
  have y := (number_denotes _ _).mpr coords.y.denotes
  simp [Coords.tokens, writtenAhead?, Fixed.token, x, y, Coords.value]

theorem written_ahead_unopened (rest : List Token) (closed : Unopened rest) : writtenAhead? rest = none := by
  rw [writtenAhead?.eq_def]
  split
  · rename_i mark _ _ _ _
    apply if_neg
    rintro ⟨separator, opening⟩
    obtain ⟨category, value, offset⟩ := mark
    cases separator
    cases opening
    exact closed ⟨offset⟩ rfl
  · rfl

theorem occurrences_coords (coords : Coords) (rest : List Token) :
    occurrences (coords.tokens ++ rest) = occurrences rest := by
  rw [Coords.tokens]
  simp only [List.cons_append, List.nil_append]
  rw [occurrences_other _ _ Category.noConfusion, occurrences_other _ _ (numeral_other _),
    occurrences_other _ _ Category.noConfusion, occurrences_other _ _ (numeral_other _),
    occurrences_other _ _ Category.noConfusion]

theorem occurrences_point (point : Point) (rest : List Token) (closed : Unopened rest) :
    occurrences (point.tokens ++ rest) = point.occurrence :: occurrences rest := by
  obtain ⟨keyword, name, coords⟩ := point
  have named : occurrences (name.token :: (coords.elim [] Coords.tokens ++ rest)) =
      ⟨name.value, coords.map Coords.value⟩ :: occurrences rest := by
    have identifier : name.token.category = .identifier := rfl
    rw [occurrences, if_pos identifier]
    cases coords with
    | none => exact congrArg (fun written => ⟨name.value, written⟩ :: occurrences rest) (written_ahead_unopened rest closed)
    | some coords =>
        rw [Option.elim_some, written_ahead_coords, occurrences_coords]
        rfl
  cases keyword with
  | none => exact named
  | some keyword => exact (occurrences_other keyword.token _ Category.noConfusion).trans named

theorem occurrences_line (line : Line) (rest : List Token) (closed : Unopened rest) :
    occurrences (line.tokens ++ rest) = line.points.map Point.occurrence ++ occurrences rest := by
  rw [Line.tokens, List.cons_append, List.append_assoc, occurrences_other _ _ Category.noConfusion,
    occurrences_point _ _ (point_unopened _ _), occurrences_point _ _ closed]
  rfl

theorem occurrences_object (object : Object) (rest : List Token) (closed : Unopened rest) :
    occurrences (object.tokens ++ rest) = object.points.map Point.occurrence ++ occurrences rest := by
  cases object with
  | point keyword name coords => exact occurrences_point _ _ closed
  | line path => exact occurrences_line path rest closed
  | perpendicular keyword apex base =>
      rw [Object.tokens, List.cons_append, List.append_assoc, occurrences_other _ _ Category.noConfusion,
        occurrences_point _ _ (line_unopened _ _), occurrences_line _ _ closed]
      rfl
  | triangle keyword first second third =>
      rw [Object.tokens, List.cons_append, List.append_assoc, List.append_assoc,
        occurrences_other _ _ Category.noConfusion, occurrences_point _ _ (point_unopened _ _),
        occurrences_point _ _ (point_unopened _ _), occurrences_point _ _ closed]
      rfl

theorem occurrences_commands (commands : List Command) :
    occurrences (commands.flatMap Command.tokens) =
      (commands.flatMap fun command => command.object.points).map Point.occurrence := by
  induction commands with
  | nil => rfl
  | cons command rest ih =>
      rw [List.flatMap_cons, List.flatMap_cons, List.map_append, Command.tokens, List.cons_append, List.append_assoc,
        occurrences_other _ _ Category.noConfusion, List.singleton_append,
        occurrences_object _ _ (terminator_unopened _ _), occurrences_other _ _ Category.noConfusion, ih]

theorem occurrences_task (tree : Task) : occurrences tree.tokens = tree.points.map Point.occurrence :=
  occurrences_commands tree.commands

end Grammar

theorem denotes_finite (token : Token) (value : Number) (denotes : Grammar.Denotes token value) :
    value.isFinite = true := by
  cases denotes with
  | integer _ _ n _ inRange => exact (Number.integer_finite n).mpr inRange
  | real _ _ _ _ finite => exact finite

theorem written_finite (trees : List Grammar.Point) :
    ∀ occurrence ∈ trees.map Grammar.Point.occurrence, ∀ coords ∈ occurrence.written?, coords.Finite := by
  intro occurrence inside coords written
  obtain ⟨tree, _, rfl⟩ := List.mem_map.mp inside
  obtain ⟨pair, _, rfl⟩ := Option.map_eq_some_iff.mp written
  exact ⟨denotes_finite _ _ pair.x.denotes, denotes_finite _ _ pair.y.denotes⟩

theorem reading_placed (jitter : Jitter) (tokens : List Token) (drawing : Drawing) (session : Session)
    (done : Reading.ofTokens jitter tokens = .finished drawing session) :
    Memory.PlacesAll jitter Memory.empty (occurrences tokens) drawing.points session.memory ∧
      ∀ occurrence ∈ occurrences tokens, ∀ coords ∈ occurrence.written?, coords.Finite := by
  obtain ⟨_, tree, rfl, _, placed⟩ := reading_sound jitter tokens drawing session done
  rw [Grammar.occurrences_task]
  exact ⟨placed, written_finite tree.points⟩

/-- In an accepted row of tokens every point is placed by those before it. The jitter is asked twice for
every name that comes up without coordinates, and the table is the digest of all points. -/
theorem accepted_points_placed (jitter : Jitter) (tokens : List Token) (drawing : Drawing) (session : Session)
    (done : Reading.ofTokens jitter tokens = .finished drawing session) :
    drawing.points.map Point.name = (occurrences tokens).map Occurrence.name ∧
      (∀ (i : Nat) occurrence point, (occurrences tokens)[i]? = some occurrence → drawing.points[i]? = some point →
        PlacedBy jitter (2 * newAmong (occurrences tokens) i) (drawing.points.take i) occurrence point.coords) ∧
      session.requests = List.replicate (2 * (bareNames (occurrences tokens)).length) Jitter.bounds ∧
      session.table = digest drawing.points := by
  obtain ⟨placed, _⟩ := reading_placed jitter tokens drawing session done
  exact placed_from_start jitter _ _ _ placed

theorem shared_segment_placed : ∃ drawing session,
    Reading.ofTokens (.cycle [3, 4]) Grammar.sharedSegment.tokens = .finished drawing session ∧
      drawing.points = [⟨"A", ⟨.integer 3, .integer 4⟩⟩, ⟨"A", ⟨.integer 3, .integer 4⟩⟩] ∧
      session.requests = List.replicate (2 * ["A"].length) Jitter.bounds ∧ session.table = digest drawing.points := by
  have done : Reading.ofTokens (.cycle [3, 4]) Grammar.sharedSegment.tokens =
      .finished [⟨"DRAW", .line ⟨.segment, ⟨"A", ⟨.integer 3, .integer 4⟩⟩, ⟨"A", ⟨.integer 3, .integer 4⟩⟩⟩⟩]
        ⟨⟨Grammar.sharedSegment.tokens.reverse, []⟩, [("A", ⟨.integer 3, .integer 4⟩)], [Jitter.bounds, Jitter.bounds],
          [.inferred "A" ⟨.integer 3, .integer 4⟩, .command "DRAW" "segment", .finished 1 1]⟩ := by cbv
  obtain ⟨_, _, requests, table⟩ := accepted_points_placed (.cycle [3, 4]) _ _ _ done
  exact ⟨_, _, done, rfl, requests, table⟩

theorem reading_run (jitter : Jitter) (tokens : List Token) (drawing : Drawing) (session : Session)
    (done : Reading.ofTokens jitter tokens = .finished drawing session) :
    Run jitter (occurrences tokens) drawing.points ∧ session.table = digest drawing.points := by
  obtain ⟨placed, written⟩ := reading_placed jitter tokens drawing session done
  obtain ⟨names, each, _, table⟩ := placed_from_start jitter _ _ _ placed
  exact ⟨⟨names, written, each⟩, table⟩

end Straightedge
