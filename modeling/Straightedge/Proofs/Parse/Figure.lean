import Straightedge.Parse.Drawing
import Straightedge.Proofs.Grammar.Unique
import Straightedge.Proofs.Parse.Point

namespace Straightedge

-- The points of a drawing in the order in which they are read.

def Line.points (path : Line Number) : List (Point Number) := [path.start, path.stop]

def Figure.points : Figure Number → List (Point Number)
  | .point place => [place]
  | .line path => path.points
  | .perpendicular base apex => apex :: base.points
  | .triangle first second third => [first, second, third]

def Drawing.points (drawing : Drawing) : List (Point Number) := drawing.flatMap fun command => command.object.points

def View.next (view : View) : Option String := view.ahead.head?.map Token.value

structure Draws (jitter : Jitter) (before after : View) (tokens : List Token) (trees : List Grammar.Point)
    (points : List (Point Number)) : Prop where
  ahead : before.ahead = tokens ++ after.ahead
  placed : Memory.PlacesAll jitter before.memory (trees.map Grammar.Point.occurrence) points after.memory

theorem places_yields (jitter : Jitter) (memory later : Memory) (tree : Grammar.Point) (point : Point Number)
    (placed : Memory.Places jitter memory tree.occurrence point later) : tree.Yields point := by
  obtain ⟨named, settled, _⟩ := placed
  refine ⟨named, fun coords written => ?_⟩
  rw [Grammar.Point.occurrence, Option.mem_def.mp written] at settled
  exact (Memory.settles_written _ _ _ _ _ settled).1

theorem draws_point (jitter : Jitter) (before after : View) (tree : Grammar.Point) (point : Point Number) :
    Draws jitter before after tree.tokens [tree] [point] ↔ before.ahead = tree.tokens ++ after.ahead ∧
      Memory.Places jitter before.memory tree.occurrence point after.memory := by
  constructor
  · rintro ⟨ahead, placed⟩
    obtain ⟨between, first, rest⟩ := (Memory.places_all_cons _ _ _ _ _ _).mp placed
    rw [(Memory.places_all_nil _ _).mp rest]
    exact ⟨ahead, first⟩
  · rintro ⟨ahead, placed⟩
    exact ⟨ahead, (Memory.places_all_cons _ _ _ _ _ _).mpr ⟨_, placed, .nil _⟩⟩

theorem draws_cons (jitter : Jitter) (before after : View) (token : Token) (tokens : List Token)
    (trees : List Grammar.Point) (points : List (Point Number)) :
    Draws jitter before after (token :: tokens) trees points ↔
      ∃ between, Reads [token] before between ∧ Draws jitter between after tokens trees points := by
  constructor
  · rintro ⟨ahead, placed⟩
    refine ⟨⟨tokens ++ after.ahead, before.memory⟩, ?_, rfl, placed⟩
    obtain ⟨_, _⟩ := before
    cases ahead
    rfl
  · rintro ⟨between, rfl, ahead, placed⟩
    exact ⟨congrArg (token :: ·) ahead, placed⟩

theorem draws_snoc (jitter : Jitter) (before after : View) (tokens : List Token) (token : Token)
    (trees : List Grammar.Point) (points : List (Point Number)) :
    Draws jitter before after (tokens ++ [token]) trees points ↔
      ∃ between, Draws jitter before between tokens trees points ∧ Reads [token] between after := by
  constructor
  · rintro ⟨ahead, placed⟩
    exact ⟨⟨token :: after.ahead, after.memory⟩, ⟨by simp [ahead], placed⟩, rfl⟩
  · rintro ⟨between, ⟨ahead, placed⟩, rfl⟩
    exact ⟨by simp [ahead], placed⟩

theorem draws_append (jitter : Jitter) (before after : View) (tokens tokens' : List Token)
    (trees trees' : List Grammar.Point) (points points' : List (Point Number)) (aligned : points.length = trees.length) :
    Draws jitter before after (tokens ++ tokens') (trees ++ trees') (points ++ points') ↔
      ∃ between, Draws jitter before between tokens trees points ∧ Draws jitter between after tokens' trees' points' := by
  have alignedNames : points.length = (trees.map Grammar.Point.occurrence).length := by
    rw [List.length_map, aligned]
  constructor
  · rintro ⟨ahead, placed⟩
    rw [List.map_append] at placed
    obtain ⟨memory, front, back⟩ := (Memory.places_all_append _ _ _ _ _ _ alignedNames).mp placed
    exact ⟨⟨tokens' ++ after.ahead, memory⟩, ⟨by rw [ahead, List.append_assoc], front⟩, rfl, back⟩
  · rintro ⟨between, ⟨ahead, front⟩, ahead', back⟩
    refine ⟨by rw [ahead, ahead', List.append_assoc], ?_⟩
    rw [List.map_append]
    exact (Memory.places_all_append _ _ _ _ _ _ alignedNames).mpr ⟨between.memory, front, back⟩

namespace Rule

theorem realizes_front_keyword :
    Realizes frontKeyword? fun before value after => value = before.next.bind Keyword.ofSpelling? ∧ after = before := by
  refine realizes_congr _ _ _ (realizes_bind _ _ _ _ realizes_peek_value fun _ => realizes_pure _) fun before value after => ?_
  constructor
  · rintro ⟨_, _, ⟨rfl, rfl⟩, rfl, rfl⟩
    exact ⟨rfl, rfl⟩
  · rintro ⟨rfl, rfl⟩
    exact ⟨_, _, ⟨rfl, rfl⟩, rfl, rfl⟩

theorem realizes_drawn_point (jitter : Jitter) :
    Realizes (point jitter) fun before value after =>
      ∃ tree : Grammar.Point, Draws jitter before after tree.tokens [tree] [value] ∧ tree.Clear after.next ∧
        tree.Yields value := by
  refine realizes_congr _ _ _ (realizes_point jitter) fun before value after => ?_
  constructor
  · rintro ⟨tree, ahead, clear, placed⟩
    exact ⟨tree, (draws_point _ _ _ _ _).mpr ⟨ahead, placed⟩, clear, places_yields _ _ _ _ _ placed⟩
  · rintro ⟨tree, draws, clear, _⟩
    obtain ⟨ahead, placed⟩ := (draws_point _ _ _ _ _).mp draws
    exact ⟨tree, ahead, clear, placed⟩

theorem point_next (view : View) (tree : Grammar.Point) (rest : List Token)
    (ahead : view.ahead = tree.tokens ++ rest) : view.next = some tree.front := by
  rw [View.next, ahead, Grammar.point_front]

theorem line_next (view : View) (tree : Grammar.Line) (rest : List Token)
    (ahead : view.ahead = tree.tokens ++ rest) : view.next = some tree.extent.keyword.spelling := by
  rw [View.next, ahead, Grammar.line_front]

theorem realizes_path (jitter : Jitter) (extent : Extent) :
    Realizes (path jitter extent) fun before value after =>
      value.extent = extent ∧ ∃ tree : Grammar.Line, Draws jitter before after tree.tokens tree.points value.points ∧
        tree.Clear after.next ∧ tree.Yields value := by
  refine realizes_congr _ _ _ (realizes_bind _ _ _ _ (realizes_fixed _ _) fun _ =>
    realizes_bind _ _ _ _ (realizes_drawn_point jitter) fun _ =>
      realizes_bind _ _ _ _ (realizes_drawn_point jitter) fun _ => realizes_pure _) fun before value after => ?_
  constructor
  · rintro ⟨_, _, ⟨keyword, rfl, reads⟩, start, _, ⟨startTree, startDraws, startClear, startYields⟩,
      stop, _, ⟨stopTree, stopDraws, stopClear, stopYields⟩, rfl, rfl⟩
    rw [point_next _ _ _ stopDraws.ahead] at startClear
    refine ⟨rfl, ⟨extent, keyword, startTree, stopTree⟩, ?_, ⟨startClear, stopClear⟩, rfl, startYields, stopYields⟩
    exact (draws_cons _ _ _ _ _ _ _).mpr ⟨_, reads,
      (draws_append _ _ _ _ _ [startTree] [stopTree] [start] [stop] rfl).mpr ⟨_, startDraws, stopDraws⟩⟩
  · obtain ⟨_, start, stop⟩ := value
    rintro ⟨rfl, tree, draws, ⟨startClear, stopClear⟩, extentSame, startYields, stopYields⟩
    obtain ⟨_, keyword, startTree, stopTree⟩ := tree
    cases extentSame
    obtain ⟨_, reads, pointsDraws⟩ := (draws_cons _ _ _ _ _ _ _).mp draws
    obtain ⟨between, startDraws, stopDraws⟩ :=
      (draws_append _ _ _ _ _ [startTree] [stopTree] [start] [stop] rfl).mp pointsDraws
    rw [← point_next _ _ _ stopDraws.ahead] at startClear
    exact ⟨_, _, ⟨keyword, rfl, reads⟩, start, _, ⟨startTree, startDraws, startClear, startYields⟩,
      stop, _, ⟨stopTree, stopDraws, stopClear, stopYields⟩, rfl, rfl⟩

theorem some_keyword_iff (extent other : Extent) : some extent.keyword = some other.keyword ↔ other = extent := by
  cases extent <;> cases other <;> decide

-- A base is a line or a segment, as its keyword tells.
theorem realizes_base (jitter : Jitter) :
    Realizes (base jitter) fun before value after =>
      ∃ tree : Grammar.Line, Draws jitter before after tree.tokens tree.points value.points ∧
        tree.Clear after.next ∧ tree.Yields value := by
  refine realizes_congr _ _ _ (realizes_bind _ _ _
    (fun word before value after => word = some value.extent.keyword ∧
      ∃ tree : Grammar.Line, Draws jitter before after tree.tokens tree.points value.points ∧
        tree.Clear after.next ∧ tree.Yields value)
    realizes_front_keyword fun word => ?_) fun before value after => ?_
  · split
    · refine realizes_congr _ _ _ (realizes_path jitter .line) fun before value after => ?_
      exact and_congr_left' (some_keyword_iff .line value.extent).symm
    · refine realizes_congr _ _ _ (realizes_path jitter .segment) fun before value after => ?_
      exact and_congr_left' (some_keyword_iff .segment value.extent).symm
    · rename_i noLine noSegment
      refine realizes_congr _ _ _ (realizes_refuse peekSnapshot .baseName) fun before value after => ?_
      constructor
      · exact False.elim
      · rintro ⟨spelled, _⟩
        cases extent : value.extent with
        | line => exact noLine (by rw [spelled, extent]; rfl)
        | segment => exact noSegment (by rw [spelled, extent]; rfl)
  · constructor
    · rintro ⟨_, _, ⟨rfl, rfl⟩, _, outcome⟩
      exact outcome
    · rintro ⟨tree, draws, clear, yields⟩
      refine ⟨_, _, ⟨rfl, rfl⟩, ?_, tree, draws, clear, yields⟩
      rw [line_next _ _ _ draws.ahead, yields.1]
      exact Keyword.of_spelling_spelling _

def Sketches (jitter : Jitter) (tree : Grammar.Object) (before : View) (value : Figure Number) (after : View) : Prop :=
  Draws jitter before after tree.tokens tree.points value.points ∧ tree.Clear after.next ∧ tree.Yields value

theorem realizes_perpendicular (jitter : Jitter) :
    Realizes (perpendicular jitter) fun before value after =>
      ∃ tree : Grammar.Object, tree.word = .perpendicular ∧ Sketches jitter tree before value after := by
  refine realizes_congr _ _ _ (realizes_bind _ _ _ _ (realizes_fixed _ _) fun _ =>
    realizes_bind _ _ _ _ (realizes_drawn_point jitter) fun _ =>
      realizes_bind _ _ _ _ (realizes_base jitter) fun _ => realizes_pure _) fun before value after => ?_
  constructor
  · rintro ⟨_, _, ⟨keyword, rfl, reads⟩, apex, _, ⟨apexTree, apexDraws, apexClear, apexYields⟩,
      base, _, ⟨baseTree, baseDraws, baseClear, baseYields⟩, rfl, rfl⟩
    rw [line_next _ _ _ baseDraws.ahead] at apexClear
    refine ⟨.perpendicular keyword apexTree baseTree, rfl, ?_, ⟨apexClear, baseClear⟩, apexYields, baseYields⟩
    exact (draws_cons _ _ _ _ _ _ _).mpr ⟨_, reads,
      (draws_append _ _ _ _ _ [apexTree] baseTree.points [apex] base.points rfl).mpr ⟨_, apexDraws, baseDraws⟩⟩
  · rintro ⟨tree, spelled, draws, clear, yields⟩
    cases tree with
    | perpendicular keyword apexTree baseTree =>
        cases value with
        | perpendicular base apex =>
            obtain ⟨apexClear, baseClear⟩ := clear
            obtain ⟨apexYields, baseYields⟩ := yields
            obtain ⟨_, reads, pointsDraws⟩ := (draws_cons _ _ _ _ _ _ _).mp draws
            obtain ⟨between, apexDraws, baseDraws⟩ :=
              (draws_append _ _ _ _ _ [apexTree] baseTree.points [apex] base.points rfl).mp pointsDraws
            rw [← line_next _ _ _ baseDraws.ahead] at apexClear
            exact ⟨_, _, ⟨keyword, rfl, reads⟩, apex, _, ⟨apexTree, apexDraws, apexClear, apexYields⟩,
              base, _, ⟨baseTree, baseDraws, baseClear, baseYields⟩, rfl, rfl⟩
        | point _ => cases yields
        | line _ => cases yields
        | triangle _ _ _ => cases yields
    | line path => exact (Grammar.line_word_other path _ spelled (.inr (.inl rfl))).elim
    | point _ _ _ => cases spelled
    | triangle _ _ _ _ => cases spelled

theorem realizes_triangle (jitter : Jitter) :
    Realizes (triangle jitter) fun before value after =>
      ∃ tree : Grammar.Object, tree.word = .triangle ∧ Sketches jitter tree before value after := by
  refine realizes_congr _ _ _ (realizes_bind _ _ _ _ (realizes_fixed _ _) fun _ =>
    realizes_bind _ _ _ _ (realizes_drawn_point jitter) fun _ =>
      realizes_bind _ _ _ _ (realizes_drawn_point jitter) fun _ =>
        realizes_bind _ _ _ _ (realizes_drawn_point jitter) fun _ => realizes_pure _) fun before value after => ?_
  constructor
  · rintro ⟨_, _, ⟨keyword, rfl, reads⟩, first, _, ⟨firstTree, firstDraws, firstClear, firstYields⟩,
      second, _, ⟨secondTree, secondDraws, secondClear, secondYields⟩,
      third, _, ⟨thirdTree, thirdDraws, thirdClear, thirdYields⟩, rfl, rfl⟩
    rw [point_next _ _ _ secondDraws.ahead] at firstClear
    rw [point_next _ _ _ thirdDraws.ahead] at secondClear
    refine ⟨.triangle keyword firstTree secondTree thirdTree, rfl, ?_, ⟨firstClear, secondClear, thirdClear⟩,
      firstYields, secondYields, thirdYields⟩
    exact (draws_cons _ _ _ _ _ _ _).mpr ⟨_, reads,
      (draws_append _ _ _ _ _ [firstTree, secondTree] [thirdTree] [first, second] [third] rfl).mpr ⟨_,
        (draws_append _ _ _ _ _ [firstTree] [secondTree] [first] [second] rfl).mpr ⟨_, firstDraws, secondDraws⟩,
        thirdDraws⟩⟩
  · rintro ⟨tree, spelled, draws, clear, yields⟩
    cases tree with
    | triangle keyword firstTree secondTree thirdTree =>
        cases value with
        | triangle first second third =>
            obtain ⟨firstClear, secondClear, thirdClear⟩ := clear
            obtain ⟨firstYields, secondYields, thirdYields⟩ := yields
            obtain ⟨_, reads, pointsDraws⟩ := (draws_cons _ _ _ _ _ _ _).mp draws
            obtain ⟨_, frontDraws, thirdDraws⟩ := (draws_append _ _ _ _ _ [firstTree, secondTree] [thirdTree]
              [first, second] [third] rfl).mp pointsDraws
            obtain ⟨_, firstDraws, secondDraws⟩ :=
              (draws_append _ _ _ _ _ [firstTree] [secondTree] [first] [second] rfl).mp frontDraws
            rw [← point_next _ _ _ secondDraws.ahead] at firstClear
            rw [← point_next _ _ _ thirdDraws.ahead] at secondClear
            exact ⟨_, _, ⟨keyword, rfl, reads⟩, first, _, ⟨firstTree, firstDraws, firstClear, firstYields⟩,
              second, _, ⟨secondTree, secondDraws, secondClear, secondYields⟩,
              third, _, ⟨thirdTree, thirdDraws, thirdClear, thirdYields⟩, rfl, rfl⟩
        | point _ => cases yields
        | line _ => cases yields
        | perpendicular _ _ => cases yields
    | line path => exact (Grammar.line_word_other path _ spelled (.inr (.inr rfl))).elim
    | point _ _ _ => cases spelled
    | perpendicular _ _ _ => cases spelled

theorem realizes_line_figure (jitter : Jitter) (extent : Extent) :
    Realizes (do return .line (← path jitter extent) : Rule (Figure Number)) fun before value after =>
      ∃ tree : Grammar.Object, tree.word = extent.keyword ∧ Sketches jitter tree before value after := by
  refine realizes_congr _ _ _ (realizes_bind _ _ _ _ (realizes_path jitter extent) fun _ => realizes_pure _)
    fun before value after => ?_
  constructor
  · rintro ⟨path, _, ⟨rfl, tree, draws, clear, yields⟩, rfl, rfl⟩
    exact ⟨.line tree, congrArg Extent.keyword yields.1.symm, draws, clear, yields⟩
  · rintro ⟨tree, spelled, draws, clear, yields⟩
    cases tree with
    | line tree =>
        cases value with
        | line path =>
            refine ⟨path, after, ⟨?_, tree, draws, clear, yields⟩, rfl, rfl⟩
            rw [yields.1]
            exact (some_keyword_iff extent tree.extent).mp (congrArg some spelled.symm)
        | point _ => cases yields
        | perpendicular _ _ => cases yields
        | triangle _ _ _ => cases yields
    | point _ _ _ => cases extent <;> cases spelled
    | perpendicular _ _ _ => cases extent <;> cases spelled
    | triangle _ _ _ _ => cases extent <;> cases spelled

theorem realizes_point_figure (jitter : Jitter) :
    Realizes (do return .point (← point jitter) : Rule (Figure Number)) fun before value after =>
      (∃ tree : Grammar.Object, tree.word = .point ∧ Sketches jitter tree before value after) ∨
        ∃ tree : Grammar.Point, tree.keyword = none ∧ ∃ place, value = .point place ∧
          Draws jitter before after tree.tokens [tree] [place] ∧ tree.Clear after.next ∧ tree.Yields place := by
  refine realizes_congr _ _ _ (realizes_bind _ _ _ _ (realizes_drawn_point jitter) fun _ => realizes_pure _)
    fun before value after => ?_
  constructor
  · rintro ⟨place, _, ⟨tree, draws, clear, yields⟩, rfl, rfl⟩
    obtain ⟨keyword, name, coords⟩ := tree
    cases keyword with
    | none => exact .inr ⟨⟨none, name, coords⟩, rfl, place, rfl, draws, clear, yields⟩
    | some keyword => exact .inl ⟨.point keyword name coords, rfl, draws, clear, yields⟩
  · rintro (⟨tree, spelled, draws, clear, yields⟩ | ⟨tree, _, place, rfl, draws, clear, yields⟩)
    · cases tree with
      | point keyword name coords =>
          cases value with
          | point place => exact ⟨place, after, ⟨⟨some keyword, name, coords⟩, draws, clear, yields⟩, rfl, rfl⟩
          | line _ => cases yields
          | perpendicular _ _ => cases yields
          | triangle _ _ _ => cases yields
      | line path => exact (Grammar.line_word_other path _ spelled (.inl rfl)).elim
      | perpendicular _ _ _ => cases spelled
      | triangle _ _ _ _ => cases spelled
    · exact ⟨place, after, ⟨tree, draws, clear, yields⟩, rfl, rfl⟩

theorem realizes_figure_of (jitter : Jitter) (word : Keyword) :
    Realizes (figureOf jitter word) fun before value after =>
      (∃ tree : Grammar.Object, tree.word = word ∧ Sketches jitter tree before value after) ∨
        word = .point ∧ ∃ tree : Grammar.Point, tree.keyword = none ∧ ∃ place, value = .point place ∧
          Draws jitter before after tree.tokens [tree] [place] ∧ tree.Clear after.next ∧ tree.Yields place := by
  cases word with
  | point => exact realizes_congr _ _ _ (realizes_point_figure jitter) fun _ _ _ => by simp
  | line => exact realizes_congr _ _ _ (realizes_line_figure jitter .line) fun _ _ _ => by simp [Extent.keyword]
  | segment => exact realizes_congr _ _ _ (realizes_line_figure jitter .segment) fun _ _ _ => by simp [Extent.keyword]
  | perpendicular => exact realizes_congr _ _ _ (realizes_perpendicular jitter) fun _ _ _ => by simp
  | triangle => exact realizes_congr _ _ _ (realizes_triangle jitter) fun _ _ _ => by simp

theorem realizes_figure (jitter : Jitter) :
    Realizes (figure jitter) fun before value after =>
      ∃ tree : Grammar.Object, Sketches jitter tree before value after := by
  refine realizes_congr _ _ _ (realizes_bind _ _ _
    (fun front before value after => ∃ word, front = some word ∧
      ((∃ tree : Grammar.Object, tree.word = word ∧ Sketches jitter tree before value after) ∨
        word = .point ∧ ∃ tree : Grammar.Point, tree.keyword = none ∧ ∃ place, value = .point place ∧
          Draws jitter before after tree.tokens [tree] [place] ∧ tree.Clear after.next ∧ tree.Yields place))
    realizes_front_keyword fun front => ?_) fun before value after => ?_
  · cases front with
    | none =>
        refine realizes_congr _ _ _ (realizes_refuse peekSnapshot .objectName) fun before value after => ?_
        simp
    | some word => exact realizes_congr _ _ _ (realizes_figure_of jitter word) fun _ _ _ => by simp
  · constructor
    · rintro ⟨_, _, ⟨rfl, rfl⟩, word, front, outcome⟩
      rcases outcome with ⟨tree, _, sketches⟩ | ⟨rfl, tree, unmarked, place, rfl, draws, clear, yields⟩
      · exact ⟨tree, sketches⟩
      · rw [point_next _ _ _ draws.ahead] at front
        have spelled := Keyword.spelling_of_of_spelling tree.front .point front
        rw [Grammar.Point.front, unmarked] at spelled
        exact absurd spelled.symm (clear.1 unmarked)
    · rintro ⟨tree, draws, clear, yields⟩
      refine ⟨_, _, ⟨rfl, rfl⟩, tree.word, ?_, .inl ⟨tree, rfl, draws, clear, yields⟩⟩
      rw [View.next, draws.ahead, Grammar.object_front]
      exact Keyword.of_spelling_spelling _

theorem realizes_command (jitter : Jitter) :
    Realizes (command jitter) fun before value after =>
      ∃ tree : Grammar.Command, Draws jitter before after tree.tokens tree.object.points value.object.points ∧
        tree.Clear ∧ tree.Yields value := by
  refine realizes_congr _ _ _ (realizes_bind _ _ _ _ (realizes_spelling .operator) fun _ =>
    realizes_bind _ _ _ _ (realizes_figure jitter) fun object =>
      realizes_bind _ _ _ _ (realizes_fixed _ _) fun _ =>
        realizes_bind _ _ _ _ (realizes_note _) fun _ => realizes_pure _) fun before value after => ?_
  constructor
  · rintro ⟨_, _, ⟨operator, rfl, reads⟩, object, between, ⟨objectTree, draws, clear, yields⟩,
      _, _, ⟨terminator, rfl, rfl⟩, _, _, rfl, rfl, rfl⟩
    refine ⟨⟨operator, objectTree, terminator⟩, ?_, clear, rfl, yields⟩
    exact (draws_cons _ _ _ _ _ _ _).mpr ⟨_, reads, (draws_snoc _ _ _ _ _ _ _).mpr ⟨_, draws, rfl⟩⟩
  · rintro ⟨⟨operator, objectTree, terminator⟩, draws, clear, operatorSame, yields⟩
    obtain ⟨_, object⟩ := value
    cases operatorSame
    obtain ⟨_, reads, rest⟩ := (draws_cons _ _ _ _ _ _ _).mp draws
    obtain ⟨_, objectDraws, rfl⟩ := (draws_snoc _ _ _ _ _ _ _).mp rest
    exact ⟨_, _, ⟨operator, rfl, reads⟩, object, _, ⟨objectTree, objectDraws, clear, yields⟩,
      _, after, ⟨terminator, rfl, rfl⟩, (), after, rfl, rfl, rfl⟩

end Rule

end Straightedge
