import Mathlib.Data.List.Basic
import Straightedge.Proofs.Document.Print
import Straightedge.Proofs.Grammar.Derivation
import Straightedge.Tool.Run

namespace Straightedge

theorem coords_document_injective (first second : Coords Number) (same : first.document = second.document) :
    first = second := by
  obtain ⟨x, y⟩ := first
  obtain ⟨x', y'⟩ := second
  cases same
  rfl

theorem point_document_injective (first second : Point Number) (same : first.document = second.document) :
    first = second := by
  obtain ⟨name, coords⟩ := first
  obtain ⟨name', coords'⟩ := second
  simp only [Point.document, pointDocument, Document.text, Document.record.injEq, List.cons.injEq, Prod.mk.injEq,
    Document.scalar.injEq, Scalar.text.injEq] at same
  obtain ⟨_, ⟨_, names⟩, ⟨_, places⟩, _⟩ := same
  rw [names, coords_document_injective coords coords' places]

theorem extent_kind_injective (first second : Extent) (same : first.kind = second.kind) : first = second := by
  cases first <;> cases second <;> first | rfl | exact absurd same (by decide)

theorem line_document_injective (first second : Line Number) (same : first.document = second.document) :
    first = second := by
  obtain ⟨extent, start, stop⟩ := first
  obtain ⟨extent', start', stop'⟩ := second
  simp only [Line.document, lineDocument, Document.text, Document.record.injEq, List.cons.injEq, Prod.mk.injEq,
    Document.scalar.injEq, Scalar.text.injEq] at same
  obtain ⟨⟨_, kinds⟩, ⟨_, starts⟩, ⟨_, stops⟩, _⟩ := same
  rw [extent_kind_injective extent extent' kinds, point_document_injective start start' starts,
    point_document_injective stop stop' stops]

-- Every figure starts with its kind, and figures of different shapes are of different kinds.
def Document.kind? : Document → Option String
  | .record ((_, .scalar (.text kind)) :: _) => some kind
  | _ => none

theorem figure_kind_shown (figure : Figure Number) : figure.document.kind? = some figure.kind := by
  cases figure <;> rfl

theorem extent_kind_apart (extent : Extent) : extent.kind ≠ "point" ∧ extent.kind ≠ "perpendicular" ∧ extent.kind ≠ "triangle" := by
  cases extent <;> decide

theorem figure_document_injective (first second : Figure Number) (same : first.document = second.document) :
    first = second := by
  -- Once the kinds agree, the fields are those of one shape.
  have kinds := congrArg Document.kind? same
  rw [figure_kind_shown, figure_kind_shown, Option.some.injEq] at kinds
  cases first with
  | point place =>
      cases second with
      | point other => rw [point_document_injective place other same]
      | line other => exact absurd kinds.symm (extent_kind_apart other.extent).1
      | perpendicular => simp [Figure.kind] at kinds
      | triangle => simp [Figure.kind] at kinds
  | line path =>
      cases second with
      | point => exact absurd kinds (extent_kind_apart path.extent).1
      | line other => rw [line_document_injective path other same]
      | perpendicular => exact absurd kinds (extent_kind_apart path.extent).2.1
      | triangle => exact absurd kinds (extent_kind_apart path.extent).2.2
  | perpendicular base apex =>
      cases second with
      | point => simp [Figure.kind] at kinds
      | line other => exact absurd kinds.symm (extent_kind_apart other.extent).2.1
      | perpendicular base' apex' =>
          simp only [Figure.document, perpendicularDocument, Document.record.injEq, List.cons.injEq, Prod.mk.injEq] at same
          obtain ⟨_, ⟨_, bases⟩, ⟨_, apexes⟩, _⟩ := same
          rw [line_document_injective base base' bases, point_document_injective apex apex' apexes]
      | triangle => simp [Figure.kind] at kinds
  | triangle a b c =>
      cases second with
      | point => simp [Figure.kind] at kinds
      | line other => exact absurd kinds.symm (extent_kind_apart other.extent).2.2
      | perpendicular => simp [Figure.kind] at kinds
      | triangle a' b' c' =>
          simp only [Figure.document, triangleDocument, Document.record.injEq, List.cons.injEq, Prod.mk.injEq] at same
          obtain ⟨_, ⟨_, one⟩, ⟨_, two⟩, ⟨_, three⟩, _⟩ := same
          rw [point_document_injective a a' one, point_document_injective b b' two, point_document_injective c c' three]

theorem command_document_injective (first second : Command Number) (same : first.document = second.document) :
    first = second := by
  obtain ⟨operator, object⟩ := first
  obtain ⟨operator', object'⟩ := second
  simp only [Command.document, commandDocument, Document.text, Document.record.injEq, List.cons.injEq, Prod.mk.injEq,
    Document.scalar.injEq, Scalar.text.injEq] at same
  obtain ⟨_, ⟨_, operators⟩, ⟨_, objects⟩, _⟩ := same
  rw [operators, figure_document_injective object object' objects]

theorem drawing_document_injective (first second : Drawing) (same : first.document = second.document) : first = second := by
  simp only [Drawing.document, taskDocument, Document.record.injEq, List.cons.injEq, Prod.mk.injEq, Document.list.injEq] at same
  obtain ⟨_, ⟨_, commands⟩, _⟩ := same
  exact List.map_injective_iff.mpr command_document_injective commands

theorem table_document_injective (first second : Table) (same : first.document = second.document) : first = second := by
  refine List.map_injective_iff.mpr ?_ (Document.record.inj same)
  rintro ⟨name, coords⟩ ⟨name', coords'⟩ fields
  simp only [Prod.mk.injEq] at fields
  rw [fields.1, coords_document_injective coords coords' fields.2]

theorem report_injective (drawing drawing' : Drawing) (table table' : Table)
    (same : (reportDocument drawing table).print 0 = (reportDocument drawing' table').print 0) :
    drawing = drawing' ∧ table = table' := by
  have reports := Document.print_injective 0 _ _ same
  simp only [reportDocument, Document.record.injEq, List.cons.injEq, Prod.mk.injEq] at reports
  obtain ⟨⟨_, drawings⟩, ⟨_, tables⟩, _⟩ := reports
  exact ⟨drawing_document_injective drawing drawing' drawings, table_document_injective table table' tables⟩

-- Runs that end with a document.

theorem checked_output (workspace : Workspace) (request : Request) (text checked : String)
    (passed : checkOutput workspace request text = .ok checked) : checked = text := by
  rw [checkOutput] at passed
  cases output : request.outputFile? with
  | none =>
      rw [output] at passed
      cases passed
      rfl
  | some path =>
      rw [output] at passed
      dsimp only at passed
      cases target : workspace.target path with
      | ok place =>
          rw [target] at passed
          cases passed
          rfl
      | error fault =>
          rw [target] at passed
          cases passed

theorem prepared_format (workspace : Workspace) (unseeded jitter : Jitter) (request : Request) (format : Format)
    (source : String) (prepared : prepare workspace unseeded request = .ok (format, jitter, source)) :
    request.format.bind Format.ofName? = some format := by
  rw [prepare] at prepared
  cases known : request.format.bind Format.ofName? with
  | none =>
      rw [known] at prepared
      cases prepared
  | some found =>
      rw [known] at prepared
      cases read : request.readSource workspace with
      | error failure =>
          rw [read] at prepared
          cases prepared
      | ok text =>
          rw [read] at prepared
          cases seeded : request.jitter unseeded with
          | error failure =>
              rw [seeded] at prepared
              cases prepared
          | ok other =>
              rw [seeded] at prepared
              cases prepared
              rfl

theorem rendered_report (reading : Reading) (text : String) (rendered : renderReading .document reading = .ok text) :
    ∃ drawing session, reading = .finished drawing session ∧ text = (reportDocument drawing session.table).print 0 := by
  cases reading with
  | unsplit error => cases rendered
  | empty error => cases rendered
  | stopped fault session => cases rendered
  | finished drawing session =>
      cases rendered
      exact ⟨drawing, session, rfl, rfl⟩

def Found (workspace : Workspace) (unseeded : Jitter) (request : Request) (drawing : Drawing) (table : Table) : Prop :=
  ∃ jitter source session, prepare workspace unseeded request = .ok (.document, jitter, source) ∧
    Reading.ofSource jitter source = .finished drawing session ∧ session.table = table

theorem printed_report (workspace : Workspace) (unseeded : Jitter) (request : Request) (text : String)
    (json : request.format = some "json") (done : (run workspace unseeded request).result = .ok text) :
    ∃ drawing table, Found workspace unseeded request drawing table ∧ text = (reportDocument drawing table).print 0 := by
  have known : request.format.bind Format.ofName? = some .document := by
    rw [json]
    rfl
  rw [run] at done
  cases prepared : prepare workspace unseeded request with
  | error failure =>
      rw [prepared] at done
      cases done
  | ok start =>
      obtain ⟨format, jitter, source⟩ := start
      rw [prepared] at done
      have document := prepared_format workspace unseeded jitter request format source prepared
      rw [known] at document
      cases document
      dsimp only at done
      cases rendered : renderReading .document (Reading.ofSource jitter source) with
      | error failure =>
          rw [rendered] at done
          cases done
      | ok report =>
          rw [rendered] at done
          have same := checked_output workspace request report text done
          obtain ⟨drawing, session, read, shown⟩ := rendered_report _ report rendered
          exact ⟨drawing, session.table, ⟨jitter, source, session, prepared, read, rfl⟩, same.trans shown⟩

theorem documents_determine_results (workspace workspace' : Workspace) (unseeded unseeded' : Jitter)
    (request request' : Request) (json : request.format = some "json") (json' : request'.format = some "json")
    (text : String) (done : (run workspace unseeded request).result = .ok text)
    (done' : (run workspace' unseeded' request').result = .ok text) :
    ∃ drawing table, Found workspace unseeded request drawing table ∧ Found workspace' unseeded' request' drawing table := by
  obtain ⟨drawing, table, found, shown⟩ := printed_report workspace unseeded request text json done
  obtain ⟨drawing', table', found', shown'⟩ := printed_report workspace' unseeded' request' text json' done'
  obtain ⟨rfl, rfl⟩ := report_injective drawing drawing' table table' (shown.symm.trans shown')
  exact ⟨drawing, table, found, found'⟩

theorem literal_document (jitter : Jitter) (source : String) (drawing : Drawing) (table : Table) (session : Session)
    (read : Reading.ofSource jitter source = .finished drawing session) (same : session.table = table) :
    (run ⟨[], [], .empty⟩ jitter ⟨source, true, some "json", none, .free⟩).result =
      .ok ((reportDocument drawing table).print 0) := by
  have prepared : prepare ⟨[], [], .empty⟩ jitter ⟨source, true, some "json", none, .free⟩ = .ok (.document, jitter, source) := rfl
  rw [run, prepared]
  dsimp only
  rw [read, ← same]
  rfl

def sharedDrawing : Drawing := [⟨"DRAW", .line ⟨.segment, ⟨"A", ⟨.integer 3, .integer 4⟩⟩, ⟨"A", ⟨.integer 3, .integer 4⟩⟩⟩⟩]

def sharedTable : Table := [("A", ⟨.integer 3, .integer 4⟩)]

theorem shared_segment_found (source : String) (split : tokenize source = .ok Grammar.sharedSegment.tokens) :
    (run ⟨[], [], .empty⟩ (.cycle [3, 4]) ⟨source, true, some "json", none, .free⟩).result =
      .ok ((reportDocument sharedDrawing sharedTable).print 0) := by
  have read : Reading.ofTokens (.cycle [3, 4]) Grammar.sharedSegment.tokens = .finished sharedDrawing
      ⟨⟨Grammar.sharedSegment.tokens.reverse, []⟩, sharedTable, [Jitter.bounds, Jitter.bounds],
        [.inferred "A" ⟨.integer 3, .integer 4⟩, .command "DRAW" "segment", .finished 1 1]⟩ := by cbv
  have found : Reading.ofSource (.cycle [3, 4]) source = Reading.ofTokens (.cycle [3, 4]) Grammar.sharedSegment.tokens := by
    rw [Reading.ofSource, split]
  exact literal_document (.cycle [3, 4]) source sharedDrawing sharedTable _ (found.trans read) rfl

theorem small_segment_split : tokenize "draw segment A A." = .ok Grammar.sharedSegment.tokens := by decide +kernel

theorem shared_segment_shown : ∃ text drawing table,
    (run ⟨[], [], .empty⟩ (.cycle [3, 4]) ⟨"DRAW SEGMENT A A.", true, some "json", none, .free⟩).result = .ok text ∧
      (run ⟨[], [], .empty⟩ (.cycle [3, 4]) ⟨"draw segment A A.", true, some "json", none, .free⟩).result = .ok text ∧
        Found ⟨[], [], .empty⟩ (.cycle [3, 4]) ⟨"draw segment A A.", true, some "json", none, .free⟩ drawing table := by
  have split : tokenize "DRAW SEGMENT A A." = .ok Grammar.sharedSegment.tokens := by decide +kernel
  have done := shared_segment_found "DRAW SEGMENT A A." split
  have done' := shared_segment_found "draw segment A A." small_segment_split
  obtain ⟨drawing, table, _, found⟩ := documents_determine_results _ _ _ _
    ⟨"DRAW SEGMENT A A.", true, some "json", none, .free⟩ ⟨"draw segment A A.", true, some "json", none, .free⟩ rfl rfl _ done done'
  exact ⟨_, drawing, table, done, done', found⟩

end Straightedge
