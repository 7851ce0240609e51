import Straightedge.Proofs.Parse.Apart
import Straightedge.Proofs.Parse.Resolve
import Straightedge.Proofs.Parse.Tracked
import Straightedge.Proofs.Parse.Violation
import Straightedge.Proofs.Place.Grounded

namespace Straightedge

-- No name comes up without coordinates first: no jitter is asked for.

-- Where an identifier that is not known comes up first, an opening bracket stands behind it.
def Introduced (known : List String) (tokens : List Token) : Prop :=
  ∀ (before : List Token) (name : Token) (after : List Token), tokens = before ++ name :: after →
    name.category = .identifier → name.value ∉ known →
    (∀ earlier ∈ before, earlier.category = .identifier → earlier.value ≠ name.value) →
    after.head?.map Token.value = some Vocabulary.opening

theorem introduced_behind (known wider : List String) (text ahead : List Token) (within : known ⊆ wider)
    (listed : ∀ token ∈ text, token.category = .identifier → token.value ∈ wider)
    (introduced : Introduced known (text ++ ahead)) : Introduced wider ahead := by
  rintro before name after rfl identifier new first
  refine introduced (text ++ before) name after (List.append_assoc _ _ _).symm identifier (fun old => new (within old)) ?_
  intro earlier among named
  rcases List.mem_append.mp among with inText | inBefore
  · exact fun same => new (same ▸ listed earlier inText named)
  · exact first earlier inBefore named

def Unasked (memory : Memory) (text ahead : List Token) (later : Memory) : Prop :=
  Introduced memory.table.names (text ++ ahead) → later.requests = memory.requests

def Spares (memory : Memory) (text ahead : List Token) (later : Memory) : Prop :=
  Introduced memory.table.names (text ++ ahead) →
    later.requests = memory.requests ∧ Introduced later.table.names ahead

theorem spares_both (memory between later : Memory) (front back ahead : List Token)
    (first : Spares memory front (back ++ ahead) between) (second : Spares between back ahead later) :
    Spares memory (front ++ back) ahead later := by
  intro introduced
  rw [List.append_assoc] at introduced
  obtain ⟨requests, between⟩ := first introduced
  obtain ⟨requests', behind⟩ := second between
  exact ⟨requests'.trans requests, behind⟩

theorem unasked_behind (memory between later : Memory) (front text ahead : List Token)
    (first : Spares memory front (text ++ ahead) between) (second : Unasked between text ahead later) :
    Unasked memory (front ++ text) ahead later := by
  intro introduced
  rw [List.append_assoc] at introduced
  obtain ⟨requests, between⟩ := first introduced
  exact (second between).trans requests

namespace Grammar

theorem point_names (point : Point) : ∀ token ∈ point.tokens, token.category = .identifier → token.value = point.name.value := by
  obtain ⟨mark, name, coords⟩ := point
  intro token inside identifier
  rcases List.mem_append.mp inside with marked | behind
  · obtain ⟨word, _, rfl⟩ := Option.map_eq_some_iff.mp (Option.mem_toList.mp marked)
    cases identifier
  · rcases List.mem_cons.mp behind with rfl | written
    · rfl
    · cases coords with
      | none => cases written
      | some coords => exact absurd identifier (coords_silent coords token written)

-- Without coordinates the name has come up before, since no bracket stands behind it.
theorem bare_known (point : Point) (known : List String) (ahead : List Token) (bare : point.coords = none)
    (clear : point.Clear (ahead.head?.map Token.value)) (introduced : Introduced known (point.tokens ++ ahead)) :
    point.name.value ∈ known := by
  by_contra new
  obtain ⟨mark, name, coords⟩ := point
  cases bare
  refine clear.2 rfl (introduced (mark.map Fixed.token).toList name.token ahead (List.append_assoc _ _ _) rfl new ?_)
  intro earlier among identifier
  obtain ⟨word, _, rfl⟩ := Option.map_eq_some_iff.mp (Option.mem_toList.mp among)
  cases identifier

end Grammar

theorem spares_point (jitter : Jitter) (tree : Grammar.Point) (memory : Memory) (ahead : List Token) (place : Point Number)
    (later : Memory) (clear : tree.Clear (ahead.head?.map Token.value))
    (placed : Memory.Places jitter memory tree.occurrence place later) : Spares memory tree.tokens ahead later := by
  intro introduced
  obtain ⟨named, settled, table⟩ := placed
  have names : later.table.names = if tree.name.value ∈ memory.table.names then memory.table.names
      else memory.table.names ++ [tree.name.value] := by
    rw [table, names_record, named]
    rfl
  constructor
  · obtain ⟨mark, name, coords⟩ := tree
    cases coords with
    | some coords => exact (Memory.settles_written _ _ _ _ _ settled).2
    | none =>
        have old := Grammar.bare_known _ _ ahead rfl clear introduced
        generalize later.requests = requests at settled ⊢
        cases settled with
        | known => rfl
        | inferred _ _ _ new => exact absurd old ((Table.find_none _ _).mp new)
  · refine introduced_behind _ _ tree.tokens ahead ?_ (fun token inside identifier => ?_) introduced
    · rw [names]
      split
      · exact List.Subset.refl _
      · exact List.subset_append_left _ _
    · rw [Grammar.point_names tree token inside identifier, names]
      split
      · assumption
      · exact List.mem_append_right _ List.mem_cons_self

theorem carries_unasked (jitter : Jitter) : Carries jitter Spares Unasked where
  silent _ text ahead silent introduced :=
    ⟨rfl, introduced_behind _ _ text ahead (List.Subset.refl _) (fun token inside named => absurd named (silent token inside)) introduced⟩
  point := spares_point jitter
  both := spares_both
  pending _ _ _ _ _ := rfl
  behind := unasked_behind

def Point.erased (point : Point Number) : Point Unit := ⟨point.name, ⟨(), ()⟩⟩

def Line.erased (path : Line Number) : Line Unit := ⟨path.extent, path.start.erased, path.stop.erased⟩

def Figure.erased : Figure Number → Figure Unit
  | .point place => .point place.erased
  | .line path => .line path.erased
  | .perpendicular base apex => .perpendicular base.erased apex.erased
  | .triangle first second third => .triangle first.erased second.erased third.erased

def Command.erased (command : Command Number) : Command Unit := ⟨command.operator, command.object.erased⟩

theorem command_erased (command : Command Number) : command.each Point.erased = command.erased := by
  obtain ⟨operator, object⟩ := command
  cases object <;> rfl

theorem drawing_erased (same : Point Number → Point Number → Prop)
    (named : ∀ point other, same point other → point.name = other.name) (first second : Drawing)
    (alike : List.Forall₂ (Command.Alike same) first second) : first.map Command.erased = second.map Command.erased := by
  have bare (point other : Point Number) (related : same point other) : point.erased = other.erased := by
    rw [Point.erased, named point other related, Point.erased]
  have replaced := drawing_each Point.erased Point.erased bare first second alike
  rwa [show Command.each Point.erased = Command.erased from funext command_erased] at replaced

-- What a reading leaves behind that the jitter has no part in.
structure Session.Abreast (tokens : List Token) (session other : Session) : Prop where
  reader : other.reader = session.reader
  names : other.table.names = session.table.names
  requests : other.requests = session.requests
  unasked : Introduced [] tokens → session.requests = []
  table : session.requests = [] → other.table = session.table

-- Two readings side by side. Points are the same if their coordinates go back to written ones, and everything is
-- if no jitter was asked for.
inductive Reading.Parallel (tokens : List Token) : Reading → Reading → Prop where
  | empty (error : SyntaxError) (nothing : tokens = []) : Parallel tokens (.empty error) (.empty error)
  | stopped (error : SyntaxError) (session other : Session) (abreast : session.Abreast tokens other) :
      Parallel tokens (.stopped (.violation error) session) (.stopped (.violation error) other)
  | finished (drawing drawing' : Drawing) (session other : Session) (abreast : session.Abreast tokens other)
      (erased : drawing'.map Command.erased = drawing.map Command.erased)
      (grounded : ∀ i, Grounded (occurrences tokens) i →
        ∃ point, drawing.points[i]? = some point ∧ drawing'.points[i]? = some point)
      (unmoved : session.requests = [] → drawing' = drawing) :
      Parallel tokens (.finished drawing session) (.finished drawing' other)

theorem introduced_unasked (jitter : Jitter) (tokens : List Token) (introduced : Introduced [] tokens) :
    (∀ drawing session, Rule.drawing jitter ⟨.ofTokens tokens, [], [], []⟩ = .ok drawing session → session.requests = []) ∧
      ∀ error session, Rule.drawing jitter ⟨.ofTokens tokens, [], [], []⟩ = .error (.violation error) session →
        session.requests = [] := by
  have follows := Rule.follows_drawing (carries_unasked jitter) ⟨.ofTokens tokens, [], [], []⟩
  constructor
  · intro drawing session done
    obtain ⟨text, crosses, spares⟩ := follows.passes drawing session done
    have split : tokens = text ++ session.reader.remaining := crosses.passes.remaining
    exact (spares (split ▸ introduced)).1
  · intro error session stopped
    obtain ⟨text, ahead, halts, unasked⟩ := follows.halts error session stopped
    have split : tokens = text ++ ahead := halts.front
    exact unasked (split ▸ introduced)

theorem matched_abreast (tokens : List Token) (session other : Session) (matched : Matched session other)
    (unasked : Introduced [] tokens → session.requests = []) : session.Abreast tokens other :=
  ⟨matched.reader, matched.names, matched.requests, unasked, matched.unasked⟩

theorem unasked_names (jitter : Jitter) (tokens : List Token) (drawing : Drawing) (session : Session)
    (done : Reading.ofTokens jitter tokens = .finished drawing session) (unasked : session.requests = []) :
    bareNames (occurrences tokens) = [] := by
  obtain ⟨placed, _⟩ := reading_placed jitter tokens drawing session done
  obtain ⟨_, _, requests, _⟩ := placed_from_start jitter _ _ _ placed
  have none : session.requests = List.replicate (2 * (bareNames (occurrences tokens)).length) Jitter.bounds := requests
  rw [unasked, eq_comm, List.replicate_eq_nil_iff] at none
  exact List.length_eq_zero_iff.mp (by omega)

theorem run_unmoved (first second : Jitter) (occurrences : List Occurrence) (points points' : List (Point Number))
    (run : Run first occurrences points) (run' : Run second occurrences points') (none : bareNames occurrences = []) :
    points' = points := by
  refine List.ext_getElem? fun i => ?_
  by_cases inside : i < occurrences.length
  · obtain ⟨point, found, found'⟩ := grounded_same first second _ _ _ run run' i (all_grounded occurrences none i inside)
    rw [found, found']
  · have beyond : points.length ≤ i := by
      rw [run_length run]
      exact Nat.not_lt.mp inside
    have beyond' : points'.length ≤ i := by
      rw [run_length run']
      exact Nat.not_lt.mp inside
    rw [List.getElem?_eq_none beyond, List.getElem?_eq_none beyond']

theorem finished_parallel (first second : Jitter) (tokens : List Token) (drawing drawing' : Drawing) (session other : Session)
    (done : Reading.ofTokens first tokens = .finished drawing session)
    (done' : Reading.ofTokens second tokens = .finished drawing' other) (abreast : session.Abreast tokens other)
    (alike : List.Forall₂ (Command.Alike fun point other => point.name = other.name) drawing drawing') :
    Reading.Parallel tokens (.finished drawing session) (.finished drawing' other) := by
  obtain ⟨run, _⟩ := reading_run first tokens drawing session done
  obtain ⟨run', _⟩ := reading_run second tokens drawing' other done'
  refine .finished drawing drawing' session other abreast (drawing_erased _ (fun _ _ same => same) _ _ alike).symm
    (grounded_same first second _ _ _ run run') fun unasked => ?_
  have points := run_unmoved first second _ _ _ run run' (unasked_names first tokens drawing session done unasked)
  exact (drawing_from_points _ _ _ alike points.symm).symm

/-- Readings with two sources of jitter differ in nothing but what was inferred: they go the same way, and no point
that goes back to written coordinates is moved. -/
theorem jitter_moves_inferred_points (first second : Jitter) (bounded : first.Bounded) (boundedToo : second.Bounded)
    (tokens : List Token) :
    Reading.Parallel tokens (Reading.ofTokens first tokens) (Reading.ofTokens second tokens) := by
  by_cases filled : tokens = []
  · subst filled
    exact .empty _ rfl
  · have start : Matched ⟨.ofTokens tokens, [], [], []⟩ ⟨.ofTokens tokens, [], [], []⟩ :=
      ⟨rfl, rfl, rfl, fun _ => rfl, empty_convertible, empty_convertible⟩
    have ends := Rule.lockstep_drawing (Rule.matched_paired bounded boundedToo) _ _ start
    have unasked := introduced_unasked first tokens
    have reading := of_tokens_drawing first tokens filled
    have reading' := of_tokens_drawing second tokens filled
    generalize Rule.drawing first ⟨.ofTokens tokens, [], [], []⟩ = left at ends unasked reading
    generalize Rule.drawing second ⟨.ofTokens tokens, [], [], []⟩ = right at ends reading'
    cases ends with
    | passed drawing drawing' session other alike matched =>
        have abreast := matched_abreast tokens session other matched fun introduced => (unasked introduced).1 _ _ rfl
        rw [reading, reading']
        exact finished_parallel first second tokens _ _ _ _ reading reading' abreast alike
    | stopped fault fault' session other same matched =>
        cases same with
        | violation error =>
            have abreast := matched_abreast tokens session other matched fun introduced => (unasked introduced).2 _ _ rfl
            rw [reading, reading']
            exact .stopped error session other abreast

theorem shared_segment_parallel : (Jitter.cycle [3, 4]).Bounded ∧ (Jitter.cycle [1, 2]).Bounded ∧
    ∃ drawing drawing' session other,
      Reading.ofTokens (.cycle [3, 4]) Grammar.sharedSegment.tokens = .finished drawing session ∧
      Reading.ofTokens (.cycle [1, 2]) Grammar.sharedSegment.tokens = .finished drawing' other ∧
      drawing' ≠ drawing ∧ drawing'.map Command.erased = drawing.map Command.erased ∧ other.requests = session.requests := by
  have bounded : (Jitter.cycle [3, 4]).Bounded := cycle_bounded _ (by decide)
  have boundedToo : (Jitter.cycle [1, 2]).Bounded := cycle_bounded _ (by decide)
  have done : Reading.ofTokens (.cycle [3, 4]) Grammar.sharedSegment.tokens =
      .finished [⟨"DRAW", .line ⟨.segment, ⟨"A", ⟨.integer 3, .integer 4⟩⟩, ⟨"A", ⟨.integer 3, .integer 4⟩⟩⟩⟩]
        ⟨⟨Grammar.sharedSegment.tokens.reverse, []⟩, [("A", ⟨.integer 3, .integer 4⟩)], [Jitter.bounds, Jitter.bounds],
          [.inferred "A" ⟨.integer 3, .integer 4⟩, .command "DRAW" "segment", .finished 1 1]⟩ := by cbv
  have done' : Reading.ofTokens (.cycle [1, 2]) Grammar.sharedSegment.tokens =
      .finished [⟨"DRAW", .line ⟨.segment, ⟨"A", ⟨.integer 1, .integer 2⟩⟩, ⟨"A", ⟨.integer 1, .integer 2⟩⟩⟩⟩]
        ⟨⟨Grammar.sharedSegment.tokens.reverse, []⟩, [("A", ⟨.integer 1, .integer 2⟩)], [Jitter.bounds, Jitter.bounds],
          [.inferred "A" ⟨.integer 1, .integer 2⟩, .command "DRAW" "segment", .finished 1 1]⟩ := by cbv
  have parallel := jitter_moves_inferred_points (.cycle [3, 4]) (.cycle [1, 2]) bounded boundedToo Grammar.sharedSegment.tokens
  rw [done, done'] at parallel
  cases parallel with
  | finished _ _ _ _ abreast erased => exact ⟨bounded, boundedToo, _, _, _, _, done, done', by simp, erased, abreast.requests⟩

end Straightedge
