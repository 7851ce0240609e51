import Straightedge.Proofs.Jitter.Bounded
import Straightedge.Proofs.Parse.Accept
import Straightedge.Proofs.Parse.Resolve
import Straightedge.Proofs.Tool.Words
import Straightedge.Proofs.Write.Document
import Straightedge.Proofs.Write.RoundTrip
import Straightedge.Tool.Transcript

namespace Straightedge

open Tool

-- A source that is read to the end begins with an operator, and so with no dash.

theorem dash_is_number (rest : List Char) (lexeme : Lexeme) (read : Lexeme.front? ('-' :: rest) = some lexeme) :
    ∃ text fractional, lexeme = .number text fractional := by
  have noWord : Text.isWordStart '-' = false := by decide
  have noSeparator : '-' ∉ Vocabulary.separators := by decide
  rw [Lexeme.front?, noWord, if_neg Bool.false_ne_true, if_neg noSeparator] at read
  split at read
  · cases read
    exact ⟨_, _, rfl⟩
  · cases read

theorem dash_no_operator (rest : List Char) (tokens : List Token) (found : (scan 0 ('-' :: rest)).1 = .ok tokens) :
    ∀ token ∈ tokens.head?, token.category ≠ .operator := by
  cases read : Lexeme.front? ('-' :: rest) with
  | none =>
      have noGap : gapLength false ('-' :: rest) = 0 := rfl
      have invalid : front ('-' :: rest) = .invalid 0 '-' := by simp only [front, noGap, List.drop_zero, read]
      rw [scan_invalid _ _ _ _ invalid] at found
      cases found
  | some lexeme =>
      rw [scan_lexeme _ _ _ _ (front_of_lexeme _ _ read)] at found
      obtain ⟨later, _, rfl⟩ := prepend_ok _ _ _ found
      obtain ⟨text, fractional, rfl⟩ := dash_is_number rest lexeme read
      rintro token ⟨⟩
      cases fractional <;> exact Category.noConfusion

theorem finished_no_dash (jitter : Jitter) (source : String) (tokens : List Token) (drawing : Drawing)
    (session : Session) (split : tokenize source = .ok tokens)
    (done : Reading.ofTokens jitter tokens = .finished drawing session) : source.toList.head? ≠ some '-' := by
  obtain ⟨_, tree, rfl, _⟩ := reading_sound jitter tokens drawing session done
  intro dash
  obtain ⟨rest, front⟩ := List.head?_eq_some_iff.mp dash
  rw [tokenize, front] at split
  exact dash_no_operator rest _ split tree.first.operator.token rfl rfl

-- A run that takes its source as a text ends well exactly if the drawing can be written.

def sourceWords (source : String) (seed : Int) : List String :=
  ["-s", source, "-f", "source", "--seed", String.ofList (Numeral.integer seed)]

theorem call_written (workspace : Workspace) (unseeded : Jitter) (source : String) (seed : Int)
    (short : (Numeral.digits seed.natAbs).length ≤ Numeral.longest) (noDash : source.toList.head? ≠ some '-')
    (drawing : Drawing) (session : Session)
    (read : Reading.ofSource (.seeded seed) source = .finished drawing session) (condition : Prop)
    (writes : Writes (Task.write drawing) condition) :
    (condition → (call workspace unseeded (sourceWords source seed)).exit = some 0) ∧
      (¬condition → (call workspace unseeded (sourceWords source seed)).exit = none) := by
  have parsed := parse_literal_words source _ seed noDash (classify_numeral seed) (integer_reads_back seed short)
  have prepared : prepare workspace unseeded ⟨source, true, some "source", none, .fixed seed⟩ =
      .ok (.source, .seeded seed, source) := rfl
  rw [sourceWords, call, parsed]
  dsimp only
  rw [run, prepared]
  dsimp only
  rw [read, renderReading, Reading.result]
  dsimp only
  rw [Format.render]
  rcases writes with ⟨holds, text, written⟩ | ⟨fails, value, _, failed⟩
  · rw [written]
    exact ⟨fun _ => rfl, fun fails => absurd holds fails⟩
  · rw [failed]
    exact ⟨fun holds => absurd holds fails, fun _ => rfl⟩

theorem digest_integers_finite (points : List (Point Number))
    (integers : ∀ point ∈ points, point.coords.IntegersFinite) : ∀ entry ∈ digest points, entry.2.IntegersFinite := by
  intro entry inside
  obtain ⟨point, among, same⟩ := digest_member points entry inside
  exact same ▸ integers point among

theorem report_strict (drawing : Drawing) (integers : ∀ point ∈ drawing.points, point.coords.IntegersFinite) :
    (reportDocument drawing (digest drawing.points)).Strict ↔ AllFinite drawing.points := by
  rw [reportDocument, Document.record_strict, List.forall_mem_cons, List.forall_mem_singleton,
    drawing_strict drawing integers, table_strict _ (digest_integers_finite _ integers)]
  exact and_iff_left_of_imp (digest_finite drawing.points)

/-- All of these are decided by the sums behind the inferred points: whether the coordinates are finite, whether
the drawing can be written as a source, whether its document is strict, and how a run ends. -/
theorem finished_written_iff_steady (jitter : Jitter) (bounded : jitter.Bounded) (source : String)
    (tokens : List Token) (drawing : Drawing) (session : Session) (split : tokenize source = .ok tokens)
    (done : Reading.ofTokens jitter tokens = .finished drawing session) :
    ((AllFinite drawing.points ∧ ∀ entry ∈ session.table, entry.2.Finite) ↔
        Steady jitter (occurrences tokens) drawing.points) ∧
      Writes (Task.write drawing) (Steady jitter (occurrences tokens) drawing.points) ∧
      ((reportDocument drawing session.table).Strict ↔ Steady jitter (occurrences tokens) drawing.points) ∧
      ∀ workspace unseeded seed, jitter = .seeded seed → (Numeral.digits seed.natAbs).length ≤ Numeral.longest →
        (Steady jitter (occurrences tokens) drawing.points →
            (call workspace unseeded (sourceWords source seed)).exit = some 0) ∧
          (¬Steady jitter (occurrences tokens) drawing.points →
            (call workspace unseeded (sourceWords source seed)).exit = none) := by
  obtain ⟨run, table⟩ := reading_run jitter tokens drawing session done
  have steady := run_finite_iff run bounded
  have integers := run_integers_finite run bounded
  have writes := writes_congr _ _ _ (task_writes drawing integers) steady
  rw [table]
  refine ⟨?_, writes, (report_strict drawing integers).trans steady, ?_⟩
  · exact (and_iff_left_of_imp (digest_finite drawing.points)).trans steady
  · rintro workspace unseeded seed rfl short
    have noDash := finished_no_dash _ source tokens drawing session split done
    have read := (reading_of_source _ source tokens split).trans done
    exact call_written workspace unseeded source seed short noDash drawing session read _ writes

theorem zero_short : (Numeral.digits (0 : Int).natAbs).length ≤ Numeral.longest :=
  Nat.le_trans (Numeral.digits_length_le 0 0 (by decide)) (by decide)

theorem shared_segment_written : ∃ drawing session,
    Reading.ofTokens (.seeded 0) Grammar.sharedSegment.tokens = .finished drawing session ∧ AllFinite drawing.points ∧
      ∀ workspace unseeded, (call workspace unseeded (sourceWords "DRAW SEGMENT A A." 0)).exit = some 0 := by
  have bounded := seeded_bounded 0
  have split : tokenize "DRAW SEGMENT A A." = .ok Grammar.sharedSegment.tokens := by decide +kernel
  have clear := Grammar.task_clear _ (tokenize_disciplined _ _ split)
  obtain ⟨drawing, session, done⟩ := derivation_accepted (.seeded 0) bounded _ clear
  have steady : Steady (.seeded 0) (occurrences Grammar.sharedSegment.tokens) drawing.points := by
    have seen : occurrences Grammar.sharedSegment.tokens = [⟨"A", none⟩, ⟨"A", none⟩] := rfl
    rw [seen]
    intro i occurrence found new
    rcases i with _ | _ | i
    · exact ⟨first_sum_in_range bounded 0, first_sum_in_range bounded 1⟩
    · cases found
      cases new
    · cases found
  obtain ⟨finite, _, _, exit⟩ := finished_written_iff_steady _ bounded _ _ drawing session split done
  exact ⟨drawing, session, done, (finite.mpr steady).1,
    fun workspace unseeded => (exit workspace unseeded 0 rfl zero_short).1 steady⟩

-- Two corners of a triangle that are far out put the third one out of range.

def corner (n : Int) : Coords Number := ⟨.integer n, .integer 0⟩

def cornerText (name : String) (n : Int) : String := name ++ coordsText (String.ofList (Numeral.integer n)) "0"

def corners (n : Int) : String := commandText "DRAW" (triangleText (cornerText "A" n) (cornerText "B" n) "C")

def cornerOccurrences (n : Int) : List Occurrence := [⟨"A", some (corner n)⟩, ⟨"B", some (corner n)⟩, ⟨"C", none⟩]

theorem corner_written (name : String) (n : Int) (inRange : n.natAbs < Binary64.rangeEnd) :
    Point.write ⟨name, corner n⟩ = .ok (cornerText name n) := by
  have zero : Numeral.integer 0 = ['0'] := Numeral.digits_of_lt 0 (by decide)
  have x := short_written n (range_short n inRange)
  have y := short_written 0 zero_short
  rw [zero] at y
  rw [Point.write, Coords.write, corner, x, y]
  rfl

theorem corner_spelled (name : String) (isName : IsName name) (n : Int) (inRange : n.natAbs < Binary64.rangeEnd)
    (offset : Nat) : ∃ tree : Grammar.Point, Spells offset (cornerText name n).toList tree.tokens ∧
      tree.occurrence = ⟨name, some (corner n)⟩ := by
  have zeroInRange : (0 : Int).natAbs < Binary64.rangeEnd := by decide +kernel
  obtain ⟨text, written, spelled⟩ := point_spelled ⟨name, corner n⟩ ⟨isName, inRange, zeroInRange⟩
  rw [corner_written name n inRange] at written
  obtain ⟨tree, _, spells, full⟩ := spelled offset
  refine ⟨tree, ?_, full⟩
  rw [Except.ok.inj written, String.toList_ofList]
  exact spells

theorem corners_text (n : Int) : (corners n).toList = "DRAW".toList ++ ' ' :: (Keyword.triangle.spelling.toList ++
    ' ' :: ((cornerText "A" n).toList ++ ' ' :: ((cornerText "B" n).toList ++ ' ' :: ['C', '.']))) := by
  simp [corners, commandText, triangleText, Vocabulary.terminator]

theorem corners_derived (n : Int) (inRange : n.natAbs < Binary64.rangeEnd) : ∃ tree : Grammar.Task,
    tokenize (corners n) = .ok tree.tokens ∧ tree.points.map Grammar.Point.occurrence = cornerOccurrences n := by
  obtain ⟨isWord, token⟩ := operator_token "DRAW" (by decide) 0
  obtain ⟨first, firstSpells, firstFull⟩ := corner_spelled "A" (by decide) n inRange 14
  obtain ⟨second, secondSpells, secondFull⟩ :=
    corner_spelled "B" (by decide) n inRange (14 + (cornerText "A" n).toList.length + 1)
  let offset := 14 + (cornerText "A" n).toList.length + 1 + (cornerText "B" n).toList.length + 1
  let third : Grammar.Point := ⟨none, ⟨"C", offset⟩, none⟩
  let terminator : Grammar.Sign Vocabulary.terminator := ⟨(offset + 1 : Nat)⟩
  let tree : Grammar.Task := ⟨⟨⟨"DRAW", (0 : Nat)⟩, .triangle ⟨(5 : Nat)⟩ first second third, terminator⟩, []⟩
  have last : Spells offset ['C', '.'] (third.tokens ++ [Grammar.Fixed.token terminator]) :=
    spells_word offset ['C'] (by decide) '.' [] (by decide) _
      (spells_fixed (offset + 1) '.' Vocabulary.terminator rfl (by decide) [] [] (spells_nil _))
  have points := spells_pair _ _ _ _ _ firstSpells (spells_pair _ _ _ _ _ secondSpells last)
  have object := spells_keyword 5 .triangle _ _ points
  have whole := spells_word 0 "DRAW".toList isWord ' ' _ (by decide) _ (spells_gap _ ' ' rfl _ _ object)
  refine ⟨tree, ?_, ?_⟩
  · have scanned := whole []
    rw [List.append_nil] at scanned
    rw [tokenize, corners_text, scanned, scan_finish _ 0 [] rfl, token]
    simp [prepend, Except.map, Grammar.Task.tokens, Grammar.Task.commands, Grammar.Command.tokens,
      Grammar.Object.tokens, tree]
  · show [first.occurrence, second.occurrence, third.occurrence] = cornerOccurrences n
    rw [firstFull, secondFull]
    rfl

theorem doubled_sums_leave (n offset : Int) (real : Binary64) (found : Binary64.ofInt? n = some real)
    (large : Binary64.rangeEnd * 2 ^ 1074 ≤ (real.signed + real.signed).natAbs) :
    ¬SumsInRange 0 (.integer 0) offset [.integer n, .integer n] := by
  have first : (do (← (Number.integer 0).add (.integer n)).dividedBy (0 + 1)) = .ok (.real real) := by
    refine (except_bind_ok _ _ _).mpr ⟨.integer (0 + n), rfl, ?_⟩
    rw [Int.zero_add]
    exact Number.divided_integer n 1 real found
  rintro ⟨_, later⟩
  obtain ⟨within, _⟩ := later (.real real) first
  exact Nat.not_lt.mpr large (within real real rfl (Number.to_real_integer n real found))

theorem far_doubled : ∃ real, Binary64.ofInt? (10 ^ 308) = some real ∧
    Binary64.rangeEnd * 2 ^ 1074 ≤ (real.signed + real.signed).natAbs := by
  have large : (Binary64.ofInt? (10 ^ 308)).any
      (fun real => decide (Binary64.rangeEnd * 2 ^ 1074 ≤ (real.signed + real.signed).natAbs)) = true := by
    decide +kernel
  obtain ⟨real, found, doubled⟩ := (Option.any_eq_true _ _).mp large
  exact ⟨real, found, of_decide_eq_true doubled⟩

theorem corners_unsteady (jitter : Jitter) (n : Int) (points : List (Point Number))
    (run : Run jitter (cornerOccurrences n) points)
    (leave : ∀ offset, ¬SumsInRange 0 (.integer 0) offset [.integer n, .integer n]) :
    ¬Steady jitter (cornerOccurrences n) points := by
  obtain ⟨⟨first, firstCoords⟩, rest, rfl, rfl, names⟩ := List.map_eq_cons_iff.mp run.names
  obtain ⟨⟨second, secondCoords⟩, rest, rfl, rfl, _⟩ := List.map_eq_cons_iff.mp names
  cases run.placed 0 _ _ rfl rfl
  cases run.placed 1 _ _ rfl rfl
  intro steady
  exact leave _ (steady 2 ⟨"C", none⟩ rfl rfl).1

theorem far_corners_fail : ∃ drawing session, Reading.ofSource (.seeded 0) (corners (10 ^ 308)) = .finished drawing session ∧
    ¬AllFinite drawing.points ∧ (¬∃ text, Task.write drawing = .ok text) ∧ ¬(reportDocument drawing session.table).Strict ∧
    ∀ workspace unseeded, (call workspace unseeded (sourceWords (corners (10 ^ 308)) 0)).exit = none := by
  have inRange : (10 ^ 308 : Int).natAbs < Binary64.rangeEnd := by decide +kernel
  obtain ⟨tree, split, seen⟩ := corners_derived (10 ^ 308) inRange
  have bounded := seeded_bounded 0
  have clear := Grammar.task_clear tree (tokenize_disciplined _ _ split)
  obtain ⟨drawing, session, done⟩ := derivation_accepted _ bounded tree clear
  obtain ⟨run, table⟩ := reading_run _ _ drawing session done
  rw [Grammar.occurrences_task, seen] at run
  obtain ⟨real, found, large⟩ := far_doubled
  have unsteady := corners_unsteady _ (10 ^ 308) drawing.points run fun offset =>
    doubled_sums_leave _ offset real found large
  have infinite : ¬AllFinite drawing.points := fun finite => unsteady ((run_finite_iff run bounded).mp finite)
  have integers := run_integers_finite run bounded
  have writes := task_writes drawing integers
  have read := (reading_of_source _ _ _ split).trans done
  refine ⟨drawing, session, read, infinite, ?_, ?_, fun workspace unseeded => ?_⟩
  · rintro ⟨text, written⟩
    rcases writes with ⟨finite, _⟩ | ⟨_, value, _, failed⟩
    · exact infinite finite
    · rw [written] at failed
      cases failed
  · rw [table, report_strict drawing integers]
    exact infinite
  · have noDash := finished_no_dash _ _ _ drawing session split done
    exact (call_written workspace unseeded _ 0 zero_short noDash drawing session read _ writes).2 infinite

end Straightedge
