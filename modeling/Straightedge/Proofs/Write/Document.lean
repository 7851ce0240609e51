import Straightedge.Proofs.Number.Reread
import Straightedge.Proofs.Write.Finite

namespace Straightedge

namespace Document

mutual

def scalars : Document → List Scalar
  | .scalar value => [value]
  | .list items => itemScalars items
  | .record fields => fieldScalars fields

def itemScalars : List Document → List Scalar
  | [] => []
  | item :: rest => scalars item ++ itemScalars rest

def fieldScalars : List (String × Document) → List Scalar
  | [] => []
  | (_, value) :: rest => scalars value ++ fieldScalars rest

end

-- The words that no strict reader takes for a number.
def beyondWords : List String := ["Infinity", "-Infinity", "NaN"]

def Strict (document : Document) : Prop := ∀ scalar ∈ document.scalars, scalarText scalar ∉ beyondWords

theorem list_strict (items : List Document) : (Document.list items).Strict ↔ ∀ item ∈ items, item.Strict := by
  rw [Strict, scalars]
  induction items with
  | nil => simp [itemScalars]
  | cons item rest ih =>
      rw [itemScalars, List.forall_mem_append, ih, List.forall_mem_cons]
      rfl

theorem record_strict (fields : List (String × Document)) :
    (Document.record fields).Strict ↔ ∀ field ∈ fields, field.2.Strict := by
  rw [Strict, scalars]
  induction fields with
  | nil => simp [fieldScalars]
  | cons field rest ih =>
      rw [fieldScalars, List.forall_mem_append, ih, List.forall_mem_cons]
      rfl

theorem scalar_strict (value : Scalar) : (Document.scalar value).Strict ↔ scalarText value ∉ beyondWords := by
  rw [Strict, scalars, List.forall_mem_singleton]

theorem text_strict (value : String) : (Document.text value).Strict := by
  have bare : ∀ word ∈ beyondWords, word.toList.head? ≠ some '\x22' := by decide
  rw [text, scalar_strict, scalarText, quote]
  intro member
  refine bare _ member ?_
  rw [String.toList_ofList]
  rfl

end Document

theorem signed_digit_no_word (negative : Bool) (c : Char) (rest : List Char) (digit : c.isDigit = true) :
    String.ofList (Layout.signed negative (c :: rest)) ∉ Document.beyondWords := by
  have different : ∀ word ∈ Document.beyondWords, ∀ sign : Bool,
      (word.toList.drop sign.toNat).head?.all (fun c => !c.isDigit) = true := by decide
  intro member
  have front := different _ member negative
  cases negative <;> simp [Layout.signed, digit] at front

theorem number_strict (value : Number) (integer : value.IntegerFinite) :
    (Document.scalar (.number value)).Strict ↔ value.isFinite = true := by
  rw [Document.scalar_strict, Document.scalarText]
  cases value with
  | integer n =>
      refine iff_of_true ?_ (integer n rfl)
      obtain ⟨c, rest, front⟩ := List.exists_cons_of_ne_nil (Numeral.digits_ne_nil n.natAbs)
      have digit : c.isDigit = true := Numeral.digits_digits n.natAbs c (by rw [front]; exact List.mem_cons_self)
      rw [Number.text, ← integer_text, front]
      exact signed_digit_no_word _ c rest digit
  | real value =>
      rw [Number.text]
      cases value with
      | finite negative rank =>
          obtain ⟨_, c, rest, front, digit, _⟩ := Literal.magnitude_written Layout.document rank
          rw [Layout.real, front]
          exact iff_of_true (signed_digit_no_word negative c rest digit) rfl
      | infinite negative =>
          refine iff_of_false (not_not_intro ?_) Bool.false_ne_true
          cases negative <;> decide
      | nan => exact iff_of_false (not_not_intro (by decide)) Bool.false_ne_true

theorem coords_strict (coords : Coords Number) (integers : coords.IntegersFinite) :
    coords.document.Strict ↔ coords.Finite := by
  rw [Coords.document, coordsDocument, Document.record_strict, List.forall_mem_cons, List.forall_mem_singleton,
    number_strict coords.x integers.1, number_strict coords.y integers.2]
  rfl

theorem point_strict (point : Point Number) (integers : point.coords.IntegersFinite) :
    point.document.Strict ↔ point.coords.Finite := by
  simp [Point.document, pointDocument, Document.record_strict, Document.text_strict, coords_strict _ integers]

theorem line_strict (path : Line Number) (integers : ∀ point ∈ path.points, point.coords.IntegersFinite) :
    path.document.Strict ↔ AllFinite path.points := by
  obtain ⟨start, rest⟩ := List.forall_mem_cons.mp integers
  obtain ⟨stop, _⟩ := List.forall_mem_cons.mp rest
  simp [Line.document, lineDocument, Document.record_strict, Document.text_strict, point_strict _ start,
    point_strict _ stop, AllFinite, Line.points]

theorem figure_strict (figure : Figure Number) (integers : ∀ point ∈ figure.points, point.coords.IntegersFinite) :
    figure.document.Strict ↔ AllFinite figure.points := by
  cases figure with
  | point place =>
      obtain ⟨only, _⟩ := List.forall_mem_cons.mp integers
      simp [Figure.document, point_strict _ only, AllFinite, Figure.points]
  | line path => exact line_strict path integers
  | perpendicular base apex =>
      obtain ⟨apexIntegers, baseIntegers⟩ := List.forall_mem_cons.mp integers
      simp [Figure.document, perpendicularDocument, Document.record_strict, Document.text_strict,
        point_strict _ apexIntegers, line_strict _ baseIntegers, AllFinite, Figure.points, and_comm]
  | triangle first second third =>
      obtain ⟨firstIntegers, rest⟩ := List.forall_mem_cons.mp integers
      obtain ⟨secondIntegers, rest⟩ := List.forall_mem_cons.mp rest
      obtain ⟨thirdIntegers, _⟩ := List.forall_mem_cons.mp rest
      simp [Figure.document, triangleDocument, Document.record_strict, Document.text_strict,
        point_strict _ firstIntegers, point_strict _ secondIntegers, point_strict _ thirdIntegers, AllFinite,
        Figure.points]

theorem command_strict (command : Command Number)
    (integers : ∀ point ∈ command.object.points, point.coords.IntegersFinite) :
    command.document.Strict ↔ AllFinite command.object.points := by
  simp [Command.document, commandDocument, Document.record_strict, Document.text_strict, figure_strict _ integers]

theorem drawing_strict (drawing : Drawing) (integers : ∀ point ∈ drawing.points, point.coords.IntegersFinite) :
    drawing.document.Strict ↔ AllFinite drawing.points := by
  rw [all_finite_drawing]
  simp only [Drawing.document, taskDocument, Document.record_strict, List.forall_mem_cons, Document.text_strict,
    Document.list_strict, List.forall_mem_map, true_and, List.not_mem_nil, false_imp_iff, implies_true, and_true]
  refine forall₂_congr fun command inside => command_strict command fun point among => integers point ?_
  exact List.mem_flatMap.mpr ⟨command, inside, among⟩

theorem table_strict (table : Table) (integers : ∀ entry ∈ table, entry.2.IntegersFinite) :
    table.document.Strict ↔ ∀ entry ∈ table, entry.2.Finite := by
  rw [Table.document, Document.record_strict, List.forall_mem_map]
  exact forall₂_congr fun entry inside => coords_strict entry.2 (integers entry inside)

end Straightedge
