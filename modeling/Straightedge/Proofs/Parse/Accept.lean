import Straightedge.Proofs.Jitter.Bounded
import Straightedge.Proofs.Parse.Safe
import Straightedge.Proofs.Token.Discipline

namespace Straightedge

theorem object_filled (tree : Grammar.Object) (points : List (Point Number))
    (fits : List.Forall₂ Grammar.Point.Yields tree.points points) :
    ∃ figure, tree.Yields figure ∧ figure.points = points := by
  cases tree with
  | point keyword name coords =>
      obtain ⟨place, _, yields, none, rfl⟩ := List.forall₂_cons_left_iff.mp fits
      cases none
      exact ⟨.point place, yields, rfl⟩
  | line path =>
      obtain ⟨start, _, startYields, rest, rfl⟩ := List.forall₂_cons_left_iff.mp fits
      obtain ⟨stop, _, stopYields, none, rfl⟩ := List.forall₂_cons_left_iff.mp rest
      cases none
      exact ⟨.line ⟨path.extent, start, stop⟩, ⟨rfl, startYields, stopYields⟩, rfl⟩
  | perpendicular keyword apex base =>
      obtain ⟨apex, _, apexYields, rest, rfl⟩ := List.forall₂_cons_left_iff.mp fits
      obtain ⟨start, _, startYields, last, rfl⟩ := List.forall₂_cons_left_iff.mp rest
      obtain ⟨stop, _, stopYields, none, rfl⟩ := List.forall₂_cons_left_iff.mp last
      cases none
      exact ⟨.perpendicular ⟨base.extent, start, stop⟩ apex, ⟨apexYields, rfl, startYields, stopYields⟩, rfl⟩
  | triangle keyword first second third =>
      obtain ⟨first, _, firstYields, rest, rfl⟩ := List.forall₂_cons_left_iff.mp fits
      obtain ⟨second, _, secondYields, last, rfl⟩ := List.forall₂_cons_left_iff.mp rest
      obtain ⟨third, _, thirdYields, none, rfl⟩ := List.forall₂_cons_left_iff.mp last
      cases none
      exact ⟨.triangle first second third, ⟨firstYields, secondYields, thirdYields⟩, rfl⟩

theorem commands_filled (trees : List Grammar.Command) (points : List (Point Number))
    (fits : List.Forall₂ Grammar.Point.Yields (trees.flatMap fun tree => tree.object.points) points) :
    ∃ drawing : Drawing, List.Forall₂ Grammar.Command.Yields trees drawing ∧ drawing.points = points := by
  induction trees generalizing points with
  | nil =>
      cases fits
      exact ⟨[], .nil, rfl⟩
  | cons tree trees ih =>
      have front := List.forall₂_take tree.object.points.length fits
      have back := List.forall₂_drop tree.object.points.length fits
      rw [List.flatMap_cons, List.take_left] at front
      rw [List.flatMap_cons, List.drop_left] at back
      obtain ⟨figure, yields, figurePoints⟩ := object_filled tree.object _ front
      obtain ⟨rest, restYields, restPoints⟩ := ih _ back
      refine ⟨⟨tree.operator.value, figure⟩ :: rest, .cons ⟨rfl, yields⟩ restYields, ?_⟩
      calc Drawing.points (⟨tree.operator.value, figure⟩ :: rest) = figure.points ++ rest.points := rfl
        _ = points.take tree.object.points.length ++ points.drop tree.object.points.length := by
          rw [figurePoints, restPoints]
        _ = points := List.take_append_drop _ _

theorem places_all_yields (jitter : Jitter) (memory later : Memory) (trees : List Grammar.Point)
    (points : List (Point Number))
    (placed : Memory.PlacesAll jitter memory (trees.map Grammar.Point.occurrence) points later) :
    List.Forall₂ Grammar.Point.Yields trees points := by
  induction trees generalizing memory points with
  | nil =>
      cases placed
      exact .nil
  | cons tree trees ih =>
      cases placed with
      | cons _ between _ _ point _ points first rest =>
          exact .cons (places_yields jitter memory between tree point first) (ih between points rest)

theorem written_convertible (trees : List Grammar.Point) :
    ∀ occurrence ∈ trees.map Grammar.Point.occurrence, ∀ coords ∈ occurrence.written?, coords.Convertible := by
  intro occurrence inside coords written
  obtain ⟨tree, _, rfl⟩ := List.mem_map.mp inside
  obtain ⟨pair, _, rfl⟩ := Option.map_eq_some_iff.mp written
  exact ⟨denotes_convertible _ _ pair.x.denotes, denotes_convertible _ _ pair.y.denotes⟩

theorem derivation_accepted (jitter : Jitter) (bounded : jitter.Bounded) (tree : Grammar.Task) (clear : tree.Clear) :
    ∃ drawing session, Reading.ofTokens jitter tree.tokens = .finished drawing session := by
  obtain ⟨points, memory, placed⟩ := Memory.places_all_total bounded Memory.empty
    (tree.points.map Grammar.Point.occurrence) (fun _ none => (List.not_mem_nil none).elim)
    (written_convertible tree.points)
  obtain ⟨drawing, yields, rfl⟩ := commands_filled tree.commands points (places_all_yields _ _ _ _ _ placed)
  obtain ⟨session, done, _⟩ := reading_complete jitter tree drawing memory clear yields placed
  exact ⟨drawing, session, done⟩

/-- Sources are split into disciplined tokens. Disciplined tokens are accepted exactly if they have a
derivation. Then all of them are consumed, the derivation is the only one, and the drawing is as it says. -/
theorem accepts_exactly_derivations (jitter : Jitter) (bounded : jitter.Bounded) :
    (∀ source tokens, tokenize source = .ok tokens → Disciplined tokens) ∧
      ∀ tokens, Disciplined tokens →
        ((∃ drawing session, Reading.ofTokens jitter tokens = .finished drawing session) ↔
          ∃ tree : Grammar.Task, tree.tokens = tokens) ∧
        ∀ drawing session, Reading.ofTokens jitter tokens = .finished drawing session →
          session.reader.remaining = [] ∧
            ∃ tree : Grammar.Task, tree.tokens = tokens ∧ (∀ other : Grammar.Task, other.tokens = tokens → other = tree) ∧
              tree.Yields drawing := by
  refine ⟨tokenize_disciplined, fun tokens disciplined => ⟨⟨?_, ?_⟩, ?_⟩⟩
  · rintro ⟨drawing, session, done⟩
    obtain ⟨_, tree, derives, _⟩ := reading_sound jitter tokens drawing session done
    exact ⟨tree, derives⟩
  · rintro ⟨tree, rfl⟩
    exact derivation_accepted jitter bounded tree (Grammar.task_clear tree disciplined)
  · intro drawing session done
    obtain ⟨finished, tree, rfl, yields, _⟩ := reading_sound jitter tokens drawing session done
    exact ⟨finished, tree, rfl, fun other same => Grammar.task_unique other tree same, yields⟩

theorem shared_segment_accepted : (Jitter.cycle [3, 4]).Bounded ∧
    tokenize "DRAW SEGMENT A A." = .ok Grammar.sharedSegment.tokens ∧
    ∃ drawing session, Reading.ofTokens (.cycle [3, 4]) Grammar.sharedSegment.tokens = .finished drawing session ∧
      session.reader.remaining = [] := by
  have bounded : (Jitter.cycle [3, 4]).Bounded := cycle_bounded _ (by decide)
  have split : tokenize "DRAW SEGMENT A A." = .ok Grammar.sharedSegment.tokens := by decide +kernel
  obtain ⟨disciplined, accepted⟩ := accepts_exactly_derivations (.cycle [3, 4]) bounded
  obtain ⟨derived, consumed⟩ := accepted _ (disciplined _ _ split)
  obtain ⟨drawing, session, done⟩ := derived.mpr ⟨Grammar.sharedSegment, rfl⟩
  exact ⟨bounded, split, drawing, session, done, (consumed drawing session done).1⟩

end Straightedge
