import Straightedge.Proofs.Parse.Accept
import Straightedge.Proofs.Parse.Resolve
import Straightedge.Proofs.Place.Axis
import Straightedge.Proofs.Place.Grounded

namespace Straightedge

namespace Grammar

def Coords.along (axis : Axis) (coords : Coords) : Numeral :=
  match axis with
  | .x => coords.x
  | .y => coords.y

def Point.literal? (axis : Axis) (point : Point) : Option Category :=
  point.coords.map fun coords => (coords.along axis).token.category

theorem value_along (axis : Axis) (coords : Coords) : coords.value.along axis = (coords.along axis).value := by
  cases axis <;> rfl

end Grammar

structure Typed (literal? : Option Category) (value : Number) : Prop where
  integer : (∃ n, value = .integer n) ↔ literal? = some .integerLiteral
  real : (∃ real, value = .real real) ↔ literal? = some .fractionalLiteral ∨ literal? = none

theorem numeral_typed (numeral : Grammar.Numeral) : Typed (some numeral.token.category) numeral.value := by
  obtain ⟨token, value, denotes⟩ := numeral
  cases denotes with
  | integer => exact ⟨by simp, by simp⟩
  | real => exact ⟨by simp, by simp⟩

theorem real_typed (real : Binary64) : Typed none (.real real) := ⟨by simp, by simp⟩

theorem integer_untyped (n : Int) : ¬Typed none (.integer n) := by
  intro typed
  cases typed.integer.mp ⟨n, rfl⟩

-- What is inferred is real but for a point in front of all others.

theorem digest_filled (earlier : List (Point Number)) (filled : earlier ≠ []) : digest earlier ≠ [] := by
  obtain ⟨point, rest, rfl⟩ := List.exists_cons_of_ne_nil filled
  have known : latest? point.name (point :: rest) ≠ none := by
    rw [ne_eq, latest_none, not_not]
    exact List.mem_cons_self
  obtain ⟨coords, found⟩ := Option.ne_none_iff_exists'.mp known
  have inside : (point.name, coords) ∈ digest (point :: rest) :=
    List.mem_filterMap.mpr ⟨point.name, List.mem_eraseDups.mpr List.mem_cons_self, by rw [found, Option.map_some]⟩
  exact List.ne_nil_of_mem inside

theorem inferred_from_nothing (offset : Int) (value : Number) (inferred : Inferred [] offset value) :
    value = .integer offset := by
  have added : (Number.integer 0).add (.integer offset) = .ok value := inferred
  rw [Number.add, Int.zero_add] at added
  exact (Except.ok.inj added).symm

theorem inferred_from_values (values : List Number) (filled : values ≠ []) (offset : Int) (value : Number)
    (inferred : Inferred values offset value) : ∃ real, value = .real real := by
  cases value with
  | integer n => exact absurd (inferred_integer values offset n inferred).1 filled
  | real real => exact ⟨real, rfl⟩

-- Where an occurrence has its coordinates from: from itself, or from where the latest one of its name has them.

inductive Origin (occurrences : List Occurrence) : Nat → Nat → Prop where
  | written (i : Nat) (name : String) (coords : Coords Number) (found : occurrences[i]? = some ⟨name, some coords⟩) :
      Origin occurrences i i
  | new (i : Nat) (name : String) (found : occurrences[i]? = some ⟨name, none⟩)
      (first : ∀ k < i, occurrences[k]?.map Occurrence.name ≠ some name) : Origin occurrences i i
  | reused (i j k : Nat) (name : String) (found : occurrences[i]? = some ⟨name, none⟩)
      (latest : Latest occurrences name i j) (source : Origin occurrences j k) : Origin occurrences i k

theorem origin_exists (occurrences : List Occurrence) (i : Nat) (inside : i < occurrences.length) :
    ∃ j, Origin occurrences i j := by
  refine occurrence_induction occurrences (fun i => ∃ j, Origin occurrences i j) ?_ ?_ ?_ i inside
  · intro i name coords found
    exact ⟨i, .written i name coords found⟩
  · intro i name found first
    exact ⟨i, .new i name found first⟩
  · rintro i j name found latest ⟨source, origin⟩
    exact ⟨source, .reused i j source name found latest origin⟩

theorem origin_own (occurrences : List Occurrence) (i j : Nat) (origin : Origin occurrences i j) :
    (∃ name coords, occurrences[j]? = some ⟨name, some coords⟩) ∨
      ∃ name, occurrences[j]? = some ⟨name, none⟩ ∧ ∀ k < j, occurrences[k]?.map Occurrence.name ≠ some name := by
  induction origin with
  | written i name coords found => exact .inl ⟨name, coords, found⟩
  | new i name found first => exact .inr ⟨name, found, first⟩
  | reused _ _ _ _ _ _ _ ih => exact ih

section

variable {jitter : Jitter} {occurrences : List Occurrence} {points : List (Point Number)}

theorem origin_coords (run : Run jitter occurrences points) (i j : Nat) (origin : Origin occurrences i j) :
    points[i]?.map Point.coords = points[j]?.map Point.coords := by
  induction origin with
  | written => rfl
  | new => rfl
  | reused i j k name found latest _ ih =>
      obtain ⟨⟨_, written?⟩, there, rfl⟩ := Option.map_eq_some_iff.mp latest.named
      obtain ⟨coords, source, _⟩ := run_point run j _ there
      rw [run_reused run _ i j found latest coords source, ← ih, source]

theorem latest_index (name : String) (i : Nat) (coords : Coords Number)
    (latest : latest? name (points.take i) = some coords) : ∃ k < i, points[k]?.map Point.name = some name := by
  obtain ⟨point, earlier, _⟩ := Option.map_eq_some_iff.mp latest
  have named : point.name = name := by simpa using List.find?_some earlier
  obtain ⟨k, there⟩ := List.mem_iff_getElem?.mp (List.mem_reverse.mp (List.mem_of_find?_eq_some earlier))
  obtain ⟨inside, there⟩ : k < i ∧ points[k]? = some point := by simpa [List.getElem?_take] using there
  exact ⟨k, inside, by rw [there, Option.map_some, named]⟩

theorem placed_new (run : Run jitter occurrences points) (i : Nat) (name : String)
    (found : occurrences[i]? = some ⟨name, none⟩) (first : ∀ k < i, occurrences[k]?.map Occurrence.name ≠ some name)
    (point : Point Number) (foundPoint : points[i]? = some point) (axis : Axis) :
    Inferred ((digest (points.take i)).map fun entry => entry.2.along axis)
      (jitter.draw (2 * newAmong occurrences i + axis.turn) Jitter.bounds) (point.coords.along axis) := by
  have placed := run.placed i _ _ found foundPoint
  generalize point.coords = coords at placed ⊢
  cases placed with
  | known _ _ latest =>
      obtain ⟨k, before, named⟩ := latest_index name i coords latest
      exact absurd (run_named run k ▸ named) (first k before)
  | inferred _ _ _ x y =>
      cases axis with
      | x => exact x
      | y => exact y

theorem first_new (run : Run jitter occurrences points) (name : String) (found : occurrences[0]? = some ⟨name, none⟩)
    (point : Point Number) (foundPoint : points[0]? = some point) (axis : Axis) :
    point.coords.along axis = .integer (jitter.draw axis.turn Jitter.bounds) := by
  have inferred := placed_new run 0 name found (fun k below => absurd below (Nat.not_lt_zero k)) point foundPoint axis
  have turn : 2 * newAmong occurrences 0 + axis.turn = axis.turn := Nat.zero_add axis.turn
  rw [turn] at inferred
  exact inferred_from_nothing _ _ inferred

theorem later_new (run : Run jitter occurrences points) (i : Nat) (later : 0 < i) (name : String)
    (found : occurrences[i]? = some ⟨name, none⟩) (first : ∀ k < i, occurrences[k]?.map Occurrence.name ≠ some name)
    (point : Point Number) (foundPoint : points[i]? = some point) (axis : Axis) :
    ∃ real, point.coords.along axis = .real real := by
  have inside : i < points.length := (List.getElem?_eq_some_iff.mp foundPoint).1
  have filled : points.take i ≠ [] := by
    rw [ne_eq, List.take_eq_nil_iff, not_or]
    exact ⟨Nat.ne_of_gt later, List.ne_nil_of_length_pos (Nat.zero_lt_of_lt inside)⟩
  refine inferred_from_values _ ?_ _ _ (placed_new run i name found first point foundPoint axis)
  rw [ne_eq, List.map_eq_nil_iff]
  exact digest_filled _ filled

theorem entry_latest (run : Run jitter occurrences points) (entry : String × Coords Number)
    (inside : entry ∈ digest points) :
    ∃ i, Latest occurrences entry.1 occurrences.length i ∧ points[i]? = some ⟨entry.1, entry.2⟩ := by
  obtain ⟨name, _, found⟩ := List.mem_filterMap.mp inside
  obtain ⟨coords, known, rfl⟩ := Option.map_eq_some_iff.mp found
  have whole : points.take occurrences.length = points := by rw [← run_length run, List.take_length]
  rw [← whole] at known
  obtain ⟨k, before, named⟩ := latest_index name _ coords known
  obtain ⟨i, latest⟩ := latest_exists occurrences name _ k before (run_named run k ▸ named)
  obtain ⟨⟨_, written?⟩, there, rfl⟩ := Option.map_eq_some_iff.mp latest.named
  obtain ⟨place, foundPoint, _⟩ := run_point run i _ there
  rw [latest_point run _ _ i latest place foundPoint] at known
  cases known
  exact ⟨i, latest, foundPoint⟩

end

-- What a derivation writes at an origin, and the kind of number that comes of it.

section

variable {jitter : Jitter} {trees : List Grammar.Point} {points : List (Point Number)}

theorem occurrence_at (j : Nat) (tree : Grammar.Point) (found : trees[j]? = some tree) :
    (trees.map Grammar.Point.occurrence)[j]? = some ⟨tree.name.value, tree.coords.map Grammar.Coords.value⟩ := by
  rw [List.getElem?_map, found]
  rfl

theorem written_typed (run : Run jitter (trees.map Grammar.Point.occurrence) points) (j : Nat) (tree : Grammar.Point)
    (found : trees[j]? = some tree) (coords : Grammar.Coords) (written : tree.coords = some coords) (point : Point Number)
    (foundPoint : points[j]? = some point) (axis : Axis) : Typed (tree.literal? axis) (point.coords.along axis) := by
  have here := occurrence_at j tree found
  rw [written, Option.map_some] at here
  rw [run_written run j _ _ here] at foundPoint
  cases foundPoint
  rw [Grammar.value_along, Grammar.Point.literal?, written, Option.map_some]
  exact numeral_typed (coords.along axis)

theorem bare_typed (run : Run jitter (trees.map Grammar.Point.occurrence) points) (i j : Nat)
    (origin : Origin (trees.map Grammar.Point.occurrence) i j) (tree : Grammar.Point) (found : trees[j]? = some tree)
    (bare : tree.coords = none) (point : Point Number) (foundPoint : points[j]? = some point) (axis : Axis) :
    (Typed (tree.literal? axis) (point.coords.along axis) ↔ j ≠ 0) ∧
      (j = 0 → point.coords.along axis = .integer (jitter.draw axis.turn Jitter.bounds)) := by
  have here := occurrence_at j tree found
  rw [bare, Option.map_none] at here
  rw [Grammar.Point.literal?, bare, Option.map_none]
  by_cases start : j = 0
  · subst start
    have integer := first_new run _ here point foundPoint axis
    rw [integer]
    exact ⟨iff_of_false (integer_untyped _) fun different => different rfl, fun _ => rfl⟩
  · obtain ⟨_, _, impossible⟩ | ⟨name, again, first⟩ := origin_own _ i j origin
    · rw [here] at impossible
      cases impossible
    · obtain ⟨real, same⟩ := later_new run j (Nat.pos_of_ne_zero start) name again first point foundPoint axis
      rw [same]
      exact ⟨iff_of_true (real_typed real) start, fun zero => absurd zero start⟩

theorem origin_typed (run : Run jitter (trees.map Grammar.Point.occurrence) points) (i j : Nat)
    (origin : Origin (trees.map Grammar.Point.occurrence) i j) (point : Point Number) (found : points[i]? = some point) :
    points[j]?.map Point.coords = some point.coords ∧ ∃ tree, trees[j]? = some tree ∧ ∀ axis,
      (Typed (tree.literal? axis) (point.coords.along axis) ↔ ¬(j = 0 ∧ tree.coords = none)) ∧
        (j = 0 ∧ tree.coords = none → point.coords.along axis = .integer (jitter.draw axis.turn Jitter.bounds)) := by
  have same := origin_coords run i j origin
  rw [found, Option.map_some, eq_comm] at same
  obtain ⟨source, foundSource, sameCoords⟩ := Option.map_eq_some_iff.mp same
  have inside : j < trees.length := by
    rw [← List.length_map Grammar.Point.occurrence, ← run_length run]
    exact (List.getElem?_eq_some_iff.mp foundSource).1
  have foundTree : trees[j]? = some trees[j] := List.getElem?_eq_getElem inside
  generalize trees[j] = tree at foundTree
  refine ⟨same, tree, foundTree, fun axis => ?_⟩
  rw [← sameCoords]
  cases written : tree.coords with
  | some coords =>
      have typed := written_typed run j tree foundTree coords written source foundSource axis
      exact ⟨iff_of_true typed (by simp), by simp⟩
  | none =>
      obtain ⟨typed, start⟩ := bare_typed run i j origin tree foundTree written source foundSource axis
      exact ⟨by simpa using typed, fun both => start both.1⟩

end

-- All coordinates are of the kind that was written where they come from, or real if nothing was.
def FollowsOrigins (trees : List Grammar.Point) (points : List (Point Number)) : Prop :=
  ∀ (i j : Nat) point tree, points[i]? = some point → Origin (trees.map Grammar.Point.occurrence) i j →
    trees[j]? = some tree → ∀ axis, Typed (tree.literal? axis) (point.coords.along axis)

theorem follows_origins_iff {jitter : Jitter} {trees : List Grammar.Point} {points : List (Point Number)}
    (run : Run jitter (trees.map Grammar.Point.occurrence) points) :
    FollowsOrigins trees points ↔ ∀ first ∈ trees.head?, first.coords ≠ none := by
  constructor
  · intro follows first head bare
    have foundTree : trees[0]? = some first := List.head?_eq_getElem?.symm.trans head
    have here := occurrence_at 0 first foundTree
    rw [bare, Option.map_none] at here
    have origin : Origin (trees.map Grammar.Point.occurrence) 0 0 :=
      .new 0 _ here fun k below => absurd below (Nat.not_lt_zero k)
    obtain ⟨coords, foundPoint, _⟩ := run_point run 0 _ here
    obtain ⟨_, tree, again, each⟩ := origin_typed run 0 0 origin _ foundPoint
    rw [foundTree] at again
    cases again
    exact (each .x).1.mp (follows 0 0 _ first foundPoint origin foundTree .x) ⟨rfl, bare⟩
  · intro written i j point tree foundPoint origin foundTree axis
    obtain ⟨_, other, again, each⟩ := origin_typed run i j origin point foundPoint
    rw [foundTree] at again
    cases again
    refine (each axis).1.mpr ?_
    rintro ⟨rfl, bare⟩
    exact written tree (List.head?_eq_getElem?.trans foundTree) bare

/-- Every coordinate of an accepted source has its kind from where it comes from, through all uses of its name. Only the
first point of a source, if nothing is written behind it, is at integers although they are inferred. -/
theorem kinds_follow_origins (jitter : Jitter) (source : String) (drawing : Drawing) (session : Session)
    (read : Reading.ofSource jitter source = .finished drawing session) :
    ∃ tree : Grammar.Task, tokenize source = .ok tree.tokens ∧
      let occurrences := tree.points.map Grammar.Point.occurrence
      (∀ i < drawing.points.length, ∃ j, Origin occurrences i j) ∧
      (∀ (i j : Nat) point, drawing.points[i]? = some point → Origin occurrences i j →
        drawing.points[j]?.map Point.coords = some point.coords ∧ ∃ origin, tree.points[j]? = some origin ∧ ∀ axis,
          (Typed (origin.literal? axis) (point.coords.along axis) ↔ ¬(j = 0 ∧ origin.coords = none)) ∧
            (j = 0 ∧ origin.coords = none →
              point.coords.along axis = .integer (jitter.draw axis.turn Jitter.bounds))) ∧
      (∀ entry ∈ session.table, ∃ i, Latest occurrences entry.1 occurrences.length i ∧
        drawing.points[i]? = some ⟨entry.1, entry.2⟩) ∧
      (FollowsOrigins tree.points drawing.points ↔ ∀ first ∈ tree.points.head?, first.coords ≠ none) := by
  obtain ⟨tokens, split, done⟩ := finished_split jitter source drawing session read
  obtain ⟨_, tree, rfl, _, _⟩ := reading_sound jitter tokens drawing session done
  obtain ⟨run, table⟩ := reading_run jitter tree.tokens drawing session done
  rw [Grammar.occurrences_task] at run
  refine ⟨tree, split, fun i inside => origin_exists _ i (run_length run ▸ inside), ?_, ?_, follows_origins_iff run⟩
  · exact fun i j point found origin => origin_typed run i j origin point found
  · intro entry inside
    exact entry_latest run entry (table ▸ inside)

-- The source is `DRAW SEGMENT A(1, 2) B.`.
def Grammar.writtenFirst : Grammar.Task :=
  ⟨⟨⟨"DRAW", 0⟩, .line ⟨.segment, ⟨5⟩, ⟨none, ⟨"A", 13⟩, some ⟨⟨14⟩,
    ⟨_, _, Grammar.digit_denotes "1" 15 1 (by decide) (by decide)⟩, ⟨16⟩,
    ⟨_, _, Grammar.digit_denotes "2" 18 2 (by decide) (by decide)⟩, ⟨19⟩⟩⟩, ⟨none, ⟨"B", 21⟩, none⟩⟩, ⟨22⟩⟩, []⟩

theorem written_first_kinds : ∃ drawing session,
    Reading.ofSource (.cycle [3, 4]) "DRAW SEGMENT A(1, 2) B." = .finished drawing session ∧
      FollowsOrigins Grammar.writtenFirst.points drawing.points := by
  have split : tokenize "DRAW SEGMENT A(1, 2) B." = .ok Grammar.writtenFirst.tokens := by decide +kernel
  have clear := Grammar.task_clear _ (tokenize_disciplined _ _ split)
  obtain ⟨drawing, session, done⟩ := derivation_accepted (.cycle [3, 4]) (cycle_bounded _ (by decide)) _ clear
  have read := (reading_of_source _ _ _ split).trans done
  obtain ⟨tree, again, _, _, _, follows⟩ := kinds_follow_origins _ _ drawing session read
  rw [split] at again
  obtain rfl := Grammar.task_unique _ _ (Except.ok.inj again)
  exact ⟨drawing, session, read, follows.mpr (by rintro _ ⟨⟩; exact nofun)⟩

-- The source is `DRAW POINT A.`.
def Grammar.barePoint : Grammar.Task := ⟨⟨⟨"DRAW", 0⟩, .point ⟨5⟩ ⟨"A", 11⟩ none, ⟨12⟩⟩, []⟩

-- The point is inferred, and yet it is at the integers that the jitter gives.
theorem bare_point_at_integers : tokenize "DRAW POINT A." = .ok Grammar.barePoint.tokens ∧
    ∃ drawing session, Reading.ofSource (.cycle [2, 5]) "DRAW POINT A." = .finished drawing session ∧
      drawing.points = [⟨"A", ⟨.integer 2, .integer 5⟩⟩] ∧ session.table = [("A", ⟨.integer 2, .integer 5⟩)] ∧
      ¬FollowsOrigins Grammar.barePoint.points drawing.points := by
  have split : tokenize "DRAW POINT A." = .ok Grammar.barePoint.tokens := by decide +kernel
  have done : Reading.ofTokens (.cycle [2, 5]) Grammar.barePoint.tokens =
      .finished [⟨"DRAW", .point ⟨"A", ⟨.integer 2, .integer 5⟩⟩⟩] ⟨⟨Grammar.barePoint.tokens.reverse, []⟩,
        [("A", ⟨.integer 2, .integer 5⟩)], [Jitter.bounds, Jitter.bounds],
        [.inferred "A" ⟨.integer 2, .integer 5⟩, .command "DRAW" "point", .finished 1 1]⟩ := by cbv
  refine ⟨split, _, _, (reading_of_source _ _ _ split).trans done, rfl, rfl, fun follows => ?_⟩
  have origin : Origin (Grammar.barePoint.points.map Grammar.Point.occurrence) 0 0 :=
    .new 0 "A" rfl fun k below => absurd below (Nat.not_lt_zero k)
  exact integer_untyped 2 (follows 0 0 _ _ rfl origin rfl .x)

end Straightedge
