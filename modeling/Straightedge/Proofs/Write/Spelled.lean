import Straightedge.Proofs.Parse.Accept
import Straightedge.Proofs.Token.Name
import Straightedge.Write

namespace Straightedge

open Text

def Coords.Writable (coords : Coords Number) : Prop := coords.x.Writable ∧ coords.y.Writable

def Point.Writable (point : Point Number) : Prop := IsName point.name ∧ point.coords.Writable

def Command.Writable (command : Command Number) : Prop :=
  command.operator ∈ Vocabulary.operators ∧ ∀ point ∈ command.object.points, point.Writable

def Point.full (point : Point Number) : Occurrence := ⟨point.name, some point.coords⟩

theorem spells_fixed (offset : Nat) (c : Char) (mark : String) (same : mark = String.ofList [c])
    (separator : c ∈ Vocabulary.separators) (next : List Char) (tokens : List Token)
    (tail : Spells (offset + 1) next tokens) :
    Spells offset (c :: next) (Grammar.Fixed.token (⟨offset⟩ : Grammar.Sign mark) :: tokens) := by
  subst same
  exact spells_lexeme offset (.separator c) next tokens (fun rest => Lexeme.front_separator c _ separator) tail

theorem spells_nil (offset : Nat) : Spells offset [] [] := by
  intro rest
  rw [prepend_nil]
  rfl

theorem spells_number (offset : Nat) (text : List Char) (fractional : Bool) (form : NumberForm text fractional)
    (value : Number) (reads : ∀ offset, ((Lexeme.number text fractional).token offset).number? = some value)
    (c : Char) (next : List Char) (noDigit : c.isDigit = false) (noPoint : c ≠ '.') (tokens : List Token)
    (tail : Spells (offset + text.length) (c :: next) tokens) :
    ∃ numeral : Grammar.Numeral, numeral.value = value ∧
      Spells offset (text ++ c :: next) (numeral.token :: tokens) := by
  refine ⟨⟨_, value, (number_denotes _ _).mp (reads offset)⟩, rfl, ?_⟩
  refine spells_lexeme offset (.number text fractional) (c :: next) tokens (fun rest => ?_) tail
  refine Lexeme.front_number text _ fractional form ?_ fun _ => ?_
  · intro d head
    cases head
    exact noDigit
  · rw [List.cons_append, Lexeme.fraction]
    exact fun rest same => noPoint (List.cons.inj same).1

theorem spells_gap (offset : Nat) (c : Char) (blank : isBlank c = true) (next : List Char) (tokens : List Token)
    (tail : Spells (offset + 1) next tokens) : Spells offset (c :: next) tokens :=
  spells_append offset [c] next [] tokens (spells_blank offset c blank) tail

theorem spells_word (offset : Nat) (word : List Char) (isWord : Lexeme.IsWord word) (c : Char) (next : List Char)
    (stop : isWordPart c = false) (tokens : List Token) (tail : Spells (offset + word.length) (c :: next) tokens) :
    Spells offset (word ++ c :: next) ((Lexeme.word word).token offset :: tokens) := by
  refine spells_lexeme offset (.word word) (c :: next) tokens (fun rest => ?_) tail
  refine Lexeme.front_word word _ isWord ?_
  intro d head
  cases head
  exact stop

theorem keyword_token (word : Keyword) (offset : Nat) : Lexeme.IsWord word.spelling.toList ∧
    (Lexeme.word word.spelling.toList).token offset = Grammar.Fixed.token (⟨offset⟩ : Grammar.Word word) := by
  cases word <;> exact ⟨by decide, rfl⟩

theorem coords_text (x y : List Char) :
    coordsText (String.ofList x) (String.ofList y) = String.ofList ('(' :: (x ++ ',' :: ' ' :: (y ++ [')']))) := by
  apply String.toList_inj.mp
  simp [coordsText, Vocabulary.opening, Vocabulary.comma, Vocabulary.closing]

theorem coords_spelled (coords : Coords Number) (writable : coords.Writable) :
    ∃ text, coords.write = .ok (String.ofList ('(' :: text)) ∧
      ∀ offset, ∃ tree : Grammar.Coords, Spells offset ('(' :: text) tree.tokens ∧ tree.value = coords := by
  obtain ⟨x, xFractional, xWritten, xForm, xReads⟩ := number_written coords.x writable.1
  obtain ⟨y, yFractional, yWritten, yForm, yReads⟩ := number_written coords.y writable.2
  refine ⟨x ++ ',' :: ' ' :: (y ++ [')']), ?_, fun offset => ?_⟩
  · rw [Coords.write, xWritten, yWritten, ← coords_text]
    rfl
  · have closing := spells_fixed (offset + 1 + x.length + 1 + 1 + y.length) ')' Vocabulary.closing rfl (by decide) [] []
      (spells_nil _)
    obtain ⟨yTree, yValue, yTail⟩ := spells_number (offset + 1 + x.length + 1 + 1) y yFractional yForm coords.y yReads
      ')' [] rfl (by decide) _ closing
    have comma := spells_fixed (offset + 1 + x.length) ',' Vocabulary.comma rfl (by decide) _ _
      (spells_gap _ ' ' rfl _ _ yTail)
    obtain ⟨xTree, xValue, xTail⟩ := spells_number (offset + 1) x xFractional xForm coords.x xReads ',' _ rfl
      (by decide) _ comma
    have opening := spells_fixed offset '(' Vocabulary.opening rfl (by decide) _ _ xTail
    refine ⟨⟨⟨_⟩, xTree, ⟨_⟩, yTree, ⟨_⟩⟩, opening, ?_⟩
    rw [Grammar.Coords.value, xValue, yValue]

theorem point_spelled (point : Point Number) (writable : point.Writable) :
    ∃ text, point.write = .ok (String.ofList text) ∧
      ∀ offset, ∃ tree : Grammar.Point, tree.keyword = none ∧ Spells offset text tree.tokens ∧
        tree.occurrence = point.full := by
  obtain ⟨⟨isWord, free⟩, coordsWritable⟩ := writable
  obtain ⟨coords, written, spelled⟩ := coords_spelled point.coords coordsWritable
  refine ⟨point.name.toList ++ '(' :: coords, ?_, fun offset => ?_⟩
  · rw [Point.write, written]
    have text : point.name ++ String.ofList ('(' :: coords) = String.ofList (point.name.toList ++ '(' :: coords) := by
      apply String.toList_inj.mp
      simp
    exact congrArg Except.ok text
  · obtain ⟨tree, tail, value⟩ := spelled (offset + point.name.toList.length)
    have token : (Lexeme.word point.name.toList).token offset =
        Grammar.Free.token (⟨point.name, offset⟩ : Grammar.Free .identifier) := by
      simp [Lexeme.token, Lexeme.category, Lexeme.value, free, Grammar.Free.token]
    have spells := spells_word offset point.name.toList isWord '(' coords (by decide) _ tail
    rw [token] at spells
    refine ⟨⟨none, ⟨point.name, offset⟩, some tree⟩, rfl, spells, ?_⟩
    rw [Point.full, ← value]
    rfl

theorem spells_keyword (offset : Nat) (word : Keyword) (next : List Char) (tokens : List Token)
    (tail : Spells (offset + word.spelling.toList.length + 1) next tokens) :
    Spells offset (word.spelling.toList ++ ' ' :: next) (Grammar.Fixed.token (⟨offset⟩ : Grammar.Word word) :: tokens) := by
  obtain ⟨isWord, token⟩ := keyword_token word offset
  rw [← token]
  exact spells_word offset _ isWord ' ' next (by decide) tokens (spells_gap _ ' ' rfl next tokens tail)

-- Two texts with a blank between them.
theorem spells_pair (offset : Nat) (first second : List Char) (before after : List Token)
    (front : Spells offset first before) (back : Spells (offset + first.length + 1) second after) :
    Spells offset (first ++ ' ' :: second) (before ++ after) :=
  spells_append offset first _ before after front (spells_gap _ ' ' rfl second after back)

theorem full_yields (tree : Grammar.Point) (point : Point Number) (same : tree.occurrence = point.full) :
    tree.Yields point := by
  obtain ⟨named, written⟩ := Occurrence.mk.inj same
  refine ⟨named.symm, fun coords inside => ?_⟩
  rw [Option.mem_def.mp inside, Option.map_some] at written
  exact (Option.some.inj written).symm

theorem line_text (extent : Extent) (start stop : List Char) :
    lineText extent (String.ofList start) (String.ofList stop) =
      String.ofList (extent.keyword.spelling.toList ++ ' ' :: (start ++ ' ' :: stop)) := by
  apply String.toList_inj.mp
  simp [lineText]

theorem line_spelled (path : Line Number) (writable : ∀ point ∈ path.points, point.Writable) :
    ∃ text, path.write = .ok (String.ofList text) ∧
      ∀ offset, ∃ tree : Grammar.Line, Spells offset text tree.tokens ∧ tree.Yields path ∧
        tree.points.map Grammar.Point.occurrence = path.points.map Point.full := by
  obtain ⟨start, startWritten, startSpelled⟩ := point_spelled path.start (writable _ (by simp [Line.points]))
  obtain ⟨stop, stopWritten, stopSpelled⟩ := point_spelled path.stop (writable _ (by simp [Line.points]))
  refine ⟨path.extent.keyword.spelling.toList ++ ' ' :: (start ++ ' ' :: stop), ?_, fun offset => ?_⟩
  · rw [Line.write, startWritten, stopWritten, ← line_text]
    rfl
  · obtain ⟨startTree, _, startSpells, startFull⟩ :=
      startSpelled (offset + path.extent.keyword.spelling.toList.length + 1)
    obtain ⟨stopTree, _, stopSpells, stopFull⟩ :=
      stopSpelled (offset + path.extent.keyword.spelling.toList.length + 1 + start.length + 1)
    refine ⟨⟨path.extent, ⟨offset⟩, startTree, stopTree⟩, ?_,
      ⟨rfl, full_yields _ _ startFull, full_yields _ _ stopFull⟩, ?_⟩
    · exact spells_keyword offset path.extent.keyword _ _ (spells_pair _ start stop _ _ startSpells stopSpells)
    · simp [Grammar.Line.points, Line.points, startFull, stopFull]

theorem alone_text (point : List Char) :
    alone (String.ofList point) = String.ofList (Keyword.point.spelling.toList ++ ' ' :: point) := by
  apply String.toList_inj.mp
  simp [alone]

theorem perpendicular_text (apex base : List Char) :
    perpendicularText (String.ofList apex) (String.ofList base) =
      String.ofList (Keyword.perpendicular.spelling.toList ++ ' ' :: (apex ++ ' ' :: base)) := by
  apply String.toList_inj.mp
  simp [perpendicularText]

theorem triangle_text (first second third : List Char) :
    triangleText (String.ofList first) (String.ofList second) (String.ofList third) =
      String.ofList (Keyword.triangle.spelling.toList ++ ' ' :: (first ++ ' ' :: second ++ ' ' :: third)) := by
  apply String.toList_inj.mp
  simp [triangleText]

theorem figure_spelled (figure : Figure Number) (writable : ∀ point ∈ figure.points, point.Writable) :
    ∃ text, figure.write = .ok (String.ofList text) ∧
      ∀ offset, ∃ tree : Grammar.Object, Spells offset text tree.tokens ∧ tree.Yields figure ∧
        tree.points.map Grammar.Point.occurrence = figure.points.map Point.full := by
  cases figure with
  | point place =>
      obtain ⟨text, written, spelled⟩ := point_spelled place (writable _ (by simp [Figure.points]))
      refine ⟨Keyword.point.spelling.toList ++ ' ' :: text, ?_, fun offset => ?_⟩
      · rw [Figure.write, written, ← alone_text]
        rfl
      · obtain ⟨tree, unmarked, spells, full⟩ := spelled (offset + Keyword.point.spelling.toList.length + 1)
        obtain ⟨keyword, name, coords⟩ := tree
        cases unmarked
        refine ⟨.point ⟨offset⟩ name coords, spells_keyword offset .point _ _ spells, full_yields _ _ full, ?_⟩
        exact congrArg (fun occurrence => [occurrence]) full
  | line path =>
      obtain ⟨text, written, spelled⟩ := line_spelled path writable
      refine ⟨text, written, fun offset => ?_⟩
      obtain ⟨tree, spells, yields, full⟩ := spelled offset
      exact ⟨.line tree, spells, yields, full⟩
  | perpendicular base apex =>
      obtain ⟨apexWritable, baseWritable⟩ := List.forall_mem_cons.mp writable
      obtain ⟨apexText, apexWritten, apexSpelled⟩ := point_spelled apex apexWritable
      obtain ⟨baseText, baseWritten, baseSpelled⟩ := line_spelled base baseWritable
      refine ⟨Keyword.perpendicular.spelling.toList ++ ' ' :: (apexText ++ ' ' :: baseText), ?_, fun offset => ?_⟩
      · rw [Figure.write, apexWritten, baseWritten, ← perpendicular_text]
        rfl
      · obtain ⟨apexTree, _, apexSpells, apexFull⟩ :=
          apexSpelled (offset + Keyword.perpendicular.spelling.toList.length + 1)
        obtain ⟨baseTree, baseSpells, baseYields, baseFull⟩ :=
          baseSpelled (offset + Keyword.perpendicular.spelling.toList.length + 1 + apexText.length + 1)
        refine ⟨.perpendicular ⟨offset⟩ apexTree baseTree, ?_, ⟨full_yields _ _ apexFull, baseYields⟩, ?_⟩
        · exact spells_keyword offset .perpendicular _ _ (spells_pair _ _ _ _ _ apexSpells baseSpells)
        · rw [Grammar.Object.points, List.map_cons, apexFull, baseFull]
          rfl
  | triangle first second third =>
      obtain ⟨firstText, firstWritten, firstSpelled⟩ := point_spelled first (writable _ (by simp [Figure.points]))
      obtain ⟨secondText, secondWritten, secondSpelled⟩ := point_spelled second (writable _ (by simp [Figure.points]))
      obtain ⟨thirdText, thirdWritten, thirdSpelled⟩ := point_spelled third (writable _ (by simp [Figure.points]))
      refine ⟨Keyword.triangle.spelling.toList ++ ' ' :: (firstText ++ ' ' :: secondText ++ ' ' :: thirdText), ?_,
        fun offset => ?_⟩
      · rw [Figure.write, firstWritten, secondWritten, thirdWritten, ← triangle_text]
        rfl
      · obtain ⟨firstTree, _, firstSpells, firstFull⟩ :=
          firstSpelled (offset + Keyword.triangle.spelling.toList.length + 1)
        obtain ⟨secondTree, _, secondSpells, secondFull⟩ :=
          secondSpelled (offset + Keyword.triangle.spelling.toList.length + 1 + firstText.length + 1)
        have pair := spells_pair _ firstText secondText _ _ firstSpells secondSpells
        obtain ⟨thirdTree, _, thirdSpells, thirdFull⟩ := thirdSpelled
          (offset + Keyword.triangle.spelling.toList.length + 1 + (firstText ++ ' ' :: secondText).length + 1)
        refine ⟨.triangle ⟨offset⟩ firstTree secondTree thirdTree, ?_,
          ⟨full_yields _ _ firstFull, full_yields _ _ secondFull, full_yields _ _ thirdFull⟩, ?_⟩
        · exact spells_keyword offset .triangle _ _ (spells_pair _ _ thirdText _ _ pair thirdSpells)
        · simp [Grammar.Object.points, Figure.points, firstFull, secondFull, thirdFull]

end Straightedge
