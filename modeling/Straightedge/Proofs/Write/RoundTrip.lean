import Straightedge.Proofs.Write.Spelled

namespace Straightedge

open Text

theorem operator_token (operator : String) (known : operator ∈ Vocabulary.operators) (offset : Nat) :
    Lexeme.IsWord operator.toList ∧ (Lexeme.word operator.toList).token offset =
      Grammar.Free.token (⟨operator, offset⟩ : Grammar.Free .operator) := by
  have each : ∀ operator ∈ Vocabulary.operators, Lexeme.IsWord operator.toList ∧
      (Lexeme.word operator.toList).category = .operator ∧ (Lexeme.word operator.toList).value = operator := by
    decide
  obtain ⟨isWord, category, value⟩ := each operator known
  exact ⟨isWord, by rw [Lexeme.token, category, value]; rfl⟩

theorem command_text (operator : String) (object : List Char) :
    commandText operator (String.ofList object) = String.ofList (operator.toList ++ ' ' :: (object ++ ['.'])) := by
  apply String.toList_inj.mp
  simp [commandText, Vocabulary.terminator]

theorem command_spelled (command : Command Number) (writable : command.Writable) :
    ∃ text, command.write = .ok (String.ofList text) ∧
      ∀ offset, ∃ tree : Grammar.Command, Spells offset text tree.tokens ∧ tree.Yields command ∧
        tree.object.points.map Grammar.Point.occurrence = command.object.points.map Point.full := by
  obtain ⟨known, pointsWritable⟩ := writable
  obtain ⟨object, written, spelled⟩ := figure_spelled command.object pointsWritable
  refine ⟨command.operator.toList ++ ' ' :: (object ++ ['.']), ?_, fun offset => ?_⟩
  · rw [Command.write, written, ← command_text]
    rfl
  · obtain ⟨isWord, token⟩ := operator_token command.operator known offset
    obtain ⟨tree, spells, yields, full⟩ := spelled (offset + command.operator.toList.length + 1)
    have terminator := spells_fixed (offset + command.operator.toList.length + 1 + object.length) '.'
      Vocabulary.terminator rfl (by decide) [] [] (spells_nil _)
    refine ⟨⟨⟨command.operator, offset⟩, tree, ⟨(offset + command.operator.toList.length + 1 + object.length : Nat)⟩⟩,
      ?_, ⟨rfl, yields⟩, full⟩
    rw [Grammar.Command.tokens, ← token]
    exact spells_word offset _ isWord ' ' _ (by decide) _
      (spells_gap _ ' ' rfl _ _ (spells_append _ object ['.'] _ _ spells terminator))

theorem add_lines_ok {κ : Type} (write : κ → Except WriteError String) (commands : List κ) (lines texts : List String)
    (written : List.Forall₂ (fun command text => write command = .ok text) commands texts) :
    addLines write lines commands = (lines ++ texts, .ok ()) := by
  induction written generalizing lines with
  | nil => rw [addLines, List.append_nil]
  | cons head _ ih =>
      rw [addLines, head]
      simp only [ih, List.append_assoc, List.singleton_append]

theorem write_lines_ok {κ : Type} (write : κ → Except WriteError String) (commands : List κ) (texts : List String)
    (written : List.Forall₂ (fun command text => write command = .ok text) commands texts) :
    writeLines write commands = .ok (joinLines texts) := by
  rw [writeLines, add_lines_ok write commands [] texts written]
  rfl

theorem lines_spelled (commands : Task Number) (writable : ∀ command ∈ commands, command.Writable) :
    ∃ texts : List (List Char),
      List.Forall₂ (fun command text => Command.write command = .ok (String.ofList text)) commands texts ∧
      ∀ offset, ∃ trees : List Grammar.Command,
        Spells offset (['\n'].intercalate texts) (trees.flatMap Grammar.Command.tokens) ∧
          List.Forall₂ Grammar.Command.Yields trees commands ∧
          (trees.flatMap fun tree => tree.object.points).map Grammar.Point.occurrence =
            (Drawing.points commands).map Point.full := by
  induction commands with
  | nil => exact ⟨[], .nil, fun offset => ⟨[], spells_nil offset, .nil, rfl⟩⟩
  | cons command rest ih =>
      obtain ⟨commandWritable, restWritable⟩ := List.forall_mem_cons.mp writable
      obtain ⟨text, written, spelled⟩ := command_spelled command commandWritable
      obtain ⟨texts, restWritten, restSpelled⟩ := ih restWritable
      refine ⟨text :: texts, .cons written restWritten, fun offset => ?_⟩
      obtain ⟨tree, spells, yields, full⟩ := spelled offset
      obtain ⟨trees, restSpells, restYields, restFull⟩ := restSpelled (offset + text.length + 1)
      refine ⟨tree :: trees, ?_, .cons yields restYields, ?_⟩
      · cases texts with
        | nil =>
            cases restWritten
            cases restYields
            rw [List.intercalate_singleton, List.flatMap_cons, List.flatMap_nil, List.append_nil]
            exact spells
        | cons line lines =>
            rw [List.intercalate_cons_cons, List.append_assoc, List.singleton_append, List.flatMap_cons]
            exact spells_append offset text _ _ _ spells (spells_gap _ '\n' rfl _ _ restSpells)
      · rw [List.flatMap_cons, List.map_append, full, restFull, Drawing.points, Drawing.points, List.flatMap_cons,
          List.map_append]

theorem join_lines_text (texts : List (List Char)) :
    (joinLines (texts.map String.ofList)).toList = ['\n'].intercalate texts := by
  rw [joinLines, String.toList_intercalate, List.map_map]
  simp [Function.comp_def]

theorem full_places_all (jitter : Jitter) (memory : Memory) (points : List (Point Number)) :
    ∃ later, Memory.PlacesAll jitter memory (points.map Point.full) points later ∧ later.requests = memory.requests := by
  induction points generalizing memory with
  | nil => exact ⟨memory, .nil memory, rfl⟩
  | cons point points ih =>
      let between : Memory := ⟨memory.table.record point.name point.coords, memory.requests⟩
      obtain ⟨later, placed, same⟩ := ih between
      have first : Memory.Places jitter memory point.full point between := ⟨rfl, .written point.name point.coords, rfl⟩
      exact ⟨later, .cons memory between later point.full point _ points first placed, same⟩

/-- The drawing that is read is the one that was written, with the kinds of its coordinates and the signs of
zeros, and it is written as the same text again. -/
theorem written_task_reads_back (jitter : Jitter) (task : Task Number) (filled : task ≠ [])
    (writable : ∀ command ∈ task, command.Writable) :
    ∃ text again session, Task.write task = .ok text ∧ Reading.ofSource jitter text = .finished again session ∧
      again = task ∧ session.requests = [] ∧ Task.write again = .ok text := by
  obtain ⟨texts, written, spelled⟩ := lines_spelled task writable
  obtain ⟨trees, spells, yields, full⟩ := spelled 0
  have write : Task.write task = .ok (joinLines (texts.map String.ofList)) :=
    write_lines_ok Command.write task _ (List.forall₂_map_right_iff.mpr written)
  have tokens : tokenize (joinLines (texts.map String.ofList)) = .ok (trees.flatMap Grammar.Command.tokens) := by
    have scanned := spells []
    rw [List.append_nil, Nat.zero_add] at scanned
    rw [tokenize, join_lines_text, scanned, scan_finish _ 0 [] rfl]
    exact congrArg Except.ok (List.append_nil _)
  obtain ⟨tree, rfl⟩ : ∃ tree : Grammar.Task, tree.commands = trees := by
    cases trees with
    | nil =>
        cases yields
        exact absurd rfl filled
    | cons first rest => exact ⟨⟨first, rest⟩, rfl⟩
  have clear := Grammar.task_clear tree (tokenize_disciplined _ _ tokens)
  obtain ⟨memory, placed, requests⟩ := full_places_all jitter Memory.empty (Drawing.points task)
  rw [← full] at placed
  obtain ⟨session, read, rfl⟩ := reading_complete jitter tree task memory clear yields placed
  refine ⟨_, task, session, write, ?_, rfl, requests, write⟩
  rw [Reading.ofSource, tokens]
  exact read

-- The apex has the name of the point that was drawn before, at other coordinates.
def apexOverSegment : Task Number :=
  [⟨"DRAW", .point ⟨"A", ⟨.integer 1, .real (.ofDecimal true 0 0)⟩⟩⟩,
    ⟨"MARK", .perpendicular
      ⟨.segment, ⟨"B", ⟨.integer (-2), .real (.ofDecimal false 5 (-1))⟩⟩, ⟨"A", ⟨.integer 0, .integer 7⟩⟩⟩
      ⟨"A", ⟨.real (.ofDecimal true 1 (-7)), .integer 3⟩⟩⟩]

theorem apex_over_segment_reads_back : apexOverSegment ≠ [] ∧ (∀ command ∈ apexOverSegment, command.Writable) ∧
    ∃ text again session, Task.write apexOverSegment = .ok text ∧
      Reading.ofSource (.cycle []) text = .finished again session ∧ again = apexOverSegment ∧ session.requests = [] ∧
        Task.write again = .ok text := by
  have integer (n : Int) (digit : n.natAbs < 10) : (Number.integer n).Writable :=
    Nat.lt_of_lt_of_le digit (by decide +kernel)
  have real (value : Binary64) (finite : value.isFinite = true) : (Number.real value).Writable := finite
  have point : Command.Writable ⟨"DRAW", .point ⟨"A", ⟨.integer 1, .real (.ofDecimal true 0 0)⟩⟩⟩ :=
    ⟨by decide, List.forall_mem_singleton.mpr ⟨by decide, integer 1 (by decide), real _ (by decide +kernel)⟩⟩
  have writable : ∀ command ∈ apexOverSegment, command.Writable := by
    refine List.forall_mem_cons.mpr ⟨point, List.forall_mem_singleton.mpr ⟨by decide, ?_⟩⟩
    refine List.forall_mem_cons.mpr ⟨⟨by decide, real _ (by decide +kernel), integer 3 (by decide)⟩, ?_⟩
    refine List.forall_mem_cons.mpr ⟨⟨by decide, integer (-2) (by decide), real _ (by decide +kernel)⟩, ?_⟩
    exact List.forall_mem_singleton.mpr ⟨by decide, integer 0 (by decide), integer 7 (by decide)⟩
  exact ⟨List.cons_ne_nil _ _, writable,
    written_task_reads_back (.cycle []) apexOverSegment (List.cons_ne_nil _ _) writable⟩

end Straightedge
