import Straightedge.Document
import Straightedge.Proofs.Number.Written
import Straightedge.Proofs.Place.Steady
import Straightedge.Proofs.Parse.Figure
import Straightedge.Write

namespace Straightedge

-- The text is there if the condition holds, and a value that is not finite is to blame if not.
def Writes (result : Except WriteError String) (condition : Prop) : Prop :=
  (condition ∧ ∃ text, result = .ok text) ∨
    (¬condition ∧ ∃ value : Binary64, value.isFinite = false ∧ result = .error (.notFinite value))

theorem writes_congr (result : Except WriteError String) (condition condition' : Prop)
    (writes : Writes result condition) (same : condition ↔ condition') : Writes result condition' := by
  rwa [Writes, ← same]

theorem writes_pure (text : String) : Writes (pure text) True := .inl ⟨trivial, text, rfl⟩

theorem writes_bind (first : Except WriteError String) (next : String → Except WriteError String)
    (condition condition' : Prop) (head : Writes first condition) (tail : ∀ text, Writes (next text) condition') :
    Writes (first >>= next) (condition ∧ condition') := by
  rcases head with ⟨holds, text, rfl⟩ | ⟨fails, value, beyond, rfl⟩
  · rcases tail text with ⟨holds', rest⟩ | ⟨fails', rest⟩
    · exact .inl ⟨⟨holds, holds'⟩, rest⟩
    · exact .inr ⟨fun both => fails' both.2, rest⟩
  · exact .inr ⟨fun both => fails both.1, value, beyond, rfl⟩

theorem number_writes (value : Number) (integer : value.IntegerFinite) : Writes value.write (value.isFinite = true) := by
  cases value with
  | integer n =>
      have inRange := integer n rfl
      exact .inl ⟨inRange, _, short_written n (range_short n ((Number.integer_finite n).mp inRange))⟩
  | real value =>
      cases finite : value.isFinite with
      | true => exact .inl ⟨finite, _, by rw [Number.write, if_pos finite]⟩
      | false =>
          refine .inr ⟨ne_true_of_eq_false finite, value, finite, ?_⟩
          rw [Number.write, finite, if_neg Bool.false_ne_true]

theorem coords_writes (coords : Coords Number) (integers : coords.IntegersFinite) :
    Writes coords.write coords.Finite := by
  refine writes_congr _ _ _ (writes_bind _ _ _ _ (number_writes coords.x integers.1) fun _ =>
    writes_bind _ _ _ _ (number_writes coords.y integers.2) fun _ => writes_pure _) ?_
  rw [and_true]
  rfl

theorem point_writes (point : Point Number) (integers : point.coords.IntegersFinite) :
    Writes point.write point.coords.Finite := by
  refine writes_congr _ _ _ (writes_bind _ _ _ _ (coords_writes point.coords integers) fun _ => writes_pure _) ?_
  rw [and_true]

theorem line_writes (path : Line Number) (integers : ∀ point ∈ path.points, point.coords.IntegersFinite) :
    Writes path.write (AllFinite path.points) := by
  obtain ⟨start, rest⟩ := List.forall_mem_cons.mp integers
  obtain ⟨stop, _⟩ := List.forall_mem_cons.mp rest
  refine writes_congr _ _ _ (writes_bind _ _ _ _ (point_writes path.start start) fun _ =>
    writes_bind _ _ _ _ (point_writes path.stop stop) fun _ => writes_pure _) ?_
  simp [AllFinite, Line.points]

theorem figure_writes (figure : Figure Number) (integers : ∀ point ∈ figure.points, point.coords.IntegersFinite) :
    Writes figure.write (AllFinite figure.points) := by
  cases figure with
  | point place =>
      obtain ⟨only, _⟩ := List.forall_mem_cons.mp integers
      refine writes_congr _ _ _ (writes_bind _ _ _ _ (point_writes place only) fun _ => writes_pure _) ?_
      simp [AllFinite, Figure.points]
  | line path => exact line_writes path integers
  | perpendicular base apex =>
      obtain ⟨apexIntegers, baseIntegers⟩ := List.forall_mem_cons.mp integers
      refine writes_congr _ _ _ (writes_bind _ _ _ _ (point_writes apex apexIntegers) fun _ =>
        writes_bind _ _ _ _ (line_writes base baseIntegers) fun _ => writes_pure _) ?_
      simp [AllFinite, Figure.points]
  | triangle first second third =>
      obtain ⟨firstIntegers, rest⟩ := List.forall_mem_cons.mp integers
      obtain ⟨secondIntegers, rest⟩ := List.forall_mem_cons.mp rest
      obtain ⟨thirdIntegers, _⟩ := List.forall_mem_cons.mp rest
      refine writes_congr _ _ _ (writes_bind _ _ _ _ (point_writes first firstIntegers) fun _ =>
        writes_bind _ _ _ _ (point_writes second secondIntegers) fun _ =>
          writes_bind _ _ _ _ (point_writes third thirdIntegers) fun _ => writes_pure _) ?_
      simp [AllFinite, Figure.points]

theorem command_writes (command : Command Number)
    (integers : ∀ point ∈ command.object.points, point.coords.IntegersFinite) :
    Writes command.write (AllFinite command.object.points) := by
  refine writes_congr _ _ _ (writes_bind _ _ _ _ (figure_writes command.object integers) fun _ => writes_pure _) ?_
  rw [and_true]

-- The lines that were there before do not matter.
theorem add_lines_writes {κ : Type} (write : κ → Except WriteError String) (condition : κ → Prop)
    (commands : List κ) (lines : List String) (each : ∀ command ∈ commands, Writes (write command) (condition command)) :
    ((∀ command ∈ commands, condition command) ∧ ∃ all, addLines write lines commands = (all, .ok ())) ∨
      ((¬∀ command ∈ commands, condition command) ∧
        ∃ all value, value.isFinite = false ∧ addLines write lines commands = (all, .error (.notFinite value))) := by
  induction commands generalizing lines with
  | nil => exact .inl ⟨fun _ none => (List.not_mem_nil none).elim, lines, rfl⟩
  | cons command rest ih =>
      obtain ⟨first, others⟩ := List.forall_mem_cons.mp each
      simp only [List.forall_mem_cons]
      rcases first with ⟨holds, text, written⟩ | ⟨fails, value, beyond, failed⟩
      · rw [addLines, written]
        rcases ih (lines ++ [text]) others with ⟨allHold, done⟩ | ⟨someFails, stopped⟩
        · exact .inl ⟨⟨holds, allHold⟩, done⟩
        · exact .inr ⟨fun both => someFails both.2, stopped⟩
      · rw [addLines, failed]
        exact .inr ⟨fun both => fails both.1, lines, value, beyond, rfl⟩

theorem all_finite_drawing (drawing : Drawing) :
    AllFinite drawing.points ↔ ∀ command ∈ drawing, AllFinite command.object.points := by
  simp only [AllFinite, Drawing.points, List.mem_flatMap]
  exact ⟨fun all command inside point among => all point ⟨command, inside, among⟩,
    fun all point ⟨command, inside, among⟩ => all command inside point among⟩

theorem task_writes (drawing : Drawing) (integers : ∀ point ∈ drawing.points, point.coords.IntegersFinite) :
    Writes (Task.write drawing) (AllFinite drawing.points) := by
  have each : ∀ command ∈ drawing, Writes command.write (AllFinite command.object.points) := by
    intro command inside
    refine command_writes command fun point among => integers point ?_
    exact List.mem_flatMap.mpr ⟨command, inside, among⟩
  refine writes_congr _ _ _ ?_ (all_finite_drawing drawing).symm
  rw [Task.write, writeLines]
  rcases add_lines_writes Command.write _ drawing [] each with ⟨holds, all, added⟩ | ⟨fails, all, value, beyond, added⟩
  · rw [added]
    exact .inl ⟨holds, _, rfl⟩
  · rw [added]
    exact .inr ⟨fails, value, beyond, rfl⟩

end Straightedge
