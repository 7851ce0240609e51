import Straightedge.Proofs.Parse.Violation
import Straightedge.Tool.Transcript

namespace Straightedge

namespace Workspace

-- A file that is written again hides what was in its place before.
def put (workspace : Workspace) (place : Place) (bytes : ByteArray) : Workspace :=
  { workspace with files := (place, bytes) :: workspace.files }

theorem file_put_same (workspace : Workspace) (place : Place) (bytes : ByteArray) :
    (workspace.put place bytes).file? place = some bytes := by
  simp [put, file?]

theorem file_put_other (workspace : Workspace) (place other : Place) (bytes : ByteArray) (apart : other ≠ place) :
    (workspace.put place bytes).file? other = workspace.file? other := by
  have different : (other == place) = false := by simpa using apart
  rw [put, file?, file?, List.lookup_cons, different]

structure Replaced (before after : Workspace) (place : Place) (bytes : ByteArray) : Prop where
  there : after.file? place = some bytes
  elsewhere : ∀ other, other ≠ place → after.file? other = before.file? other
  directories : after.directories = before.directories
  input : after.input = before.input

-- To open a file for writing empties it.
def overwrite (workspace : Workspace) (place : Place) (text : String) : Workspace :=
  (workspace.put place .empty).put place text.toUTF8

theorem overwrite_replaced (workspace : Workspace) (place : Place) (text : String) :
    Replaced workspace (workspace.overwrite place text) place text.toUTF8 := by
  refine ⟨file_put_same _ place _, fun other apart => ?_, rfl, rfl⟩
  rw [overwrite, file_put_other _ _ _ _ apart, file_put_other _ _ _ _ apart]

end Workspace

namespace Tool

structure World where
  workspace : Workspace
  output : String
  errors : String

abbrev Act := EStateM Failure World

def ofResult {α : Type} (result : Except Failure α) : Act α := fun world =>
  match result with
  | .ok value => .ok value world
  | .error failure => .error failure world

def look : Act Workspace := fun world => .ok world.workspace world

def fill (place : Place) (bytes : ByteArray) : Act Unit := fun world =>
  .ok () { world with workspace := world.workspace.put place bytes }

def display (text : String) : Act Unit := fun world => .ok () { world with output := world.output ++ text }

def log (verbose : Bool) (text : String) : Act Unit := fun world =>
  .ok () { world with errors := world.errors ++ if verbose then text else "" }

-- The text of a run. A run that stops while it reads has logged what it had read.
def renderSteps (unseeded : Jitter) (request : Request) (verbose : Bool) : Act String := do
  let (format, jitter, source) ← ofResult (prepare (← look) unseeded request)
  let reading := Reading.ofSource jitter source
  log verbose (journalText reading.journal)
  ofResult (renderReading format reading)

def save (path text : String) : Act Unit := do
  match (← look).target path with
  | .error fault => throw (.badPath fault path)
  | .ok place =>
      fill place .empty
      fill place text.toUTF8

def deliverSteps (request : Request) (verbose : Bool) (text : String) : Act Unit :=
  match request.outputFile? with
  | none => display (text ++ "\n")
  | some path => do
      save path (text ++ "\n")
      log verbose (writtenText (some (path, text ++ "\n")))

structure Ending where
  exit : Option Nat
  failure : Option Failure
  world : World

def ending : EStateM.Result Failure World Unit → Ending
  | .ok _ world => ⟨some 0, none, world⟩
  | .error (.unreadable (.violation error)) world =>
      ⟨some 1, none, { world with errors := world.errors ++ error.message ++ "\n" }⟩
  | .error failure world => ⟨none, some failure, world⟩

def performed (workspace : Workspace) (unseeded : Jitter) (request : Request) (verbose : Bool) : Ending :=
  ending ((renderSteps unseeded request verbose >>= deliverSteps request verbose) ⟨workspace, "", ""⟩)

def Transcript.ending (transcript : Transcript) (workspace : Workspace) : Ending :=
  let later := match transcript.written with
    | none => workspace
    | some (path, text) =>
        match workspace.target path with
        | .ok place => workspace.overwrite place text
        | .error _ => workspace
  ⟨transcript.exit, transcript.failure, ⟨later, transcript.output, transcript.errors⟩⟩

def rendered (workspace : Workspace) (unseeded : Jitter) (request : Request) : Except Failure String := do
  let (format, jitter, source) ← prepare workspace unseeded request
  renderReading format (Reading.ofSource jitter source)

def logged (workspace : Workspace) (unseeded : Jitter) (request : Request) (verbose : Bool) : String :=
  if verbose then journalText (run workspace unseeded request).journal else ""

-- How a run ends, by the result of its rendering. Only the last case touches a file.
inductive Concluded (workspace : Workspace) (request : Request) (verbose : Bool) (log : String) :
    Except Failure String → Ending → Prop where
  | reported (error : SyntaxError) : Concluded workspace request verbose log (.error (.unreadable (.violation error)))
      ⟨some 1, none, ⟨workspace, "", log ++ error.message ++ "\n"⟩⟩
  | escaped (failure : Failure) (noViolation : ∀ error, failure ≠ .unreadable (.violation error)) :
      Concluded workspace request verbose log (.error failure) ⟨none, some failure, ⟨workspace, "", log⟩⟩
  | shown (text : String) (noFile : request.outputFile? = none) :
      Concluded workspace request verbose log (.ok text) ⟨some 0, none, ⟨workspace, text ++ "\n", log⟩⟩
  | unwritable (text path : String) (fault : PathFault) (file : request.outputFile? = some path)
      (target : workspace.target path = .error fault) :
      Concluded workspace request verbose log (.ok text) ⟨none, some (.badPath fault path), ⟨workspace, "", log⟩⟩
  | saved (text path : String) (place : Place) (later : Workspace) (file : request.outputFile? = some path)
      (target : workspace.target path = .ok place)
      (only : workspace.Replaced later place (text ++ "\n").toUTF8) :
      Concluded workspace request verbose log (.ok text)
        ⟨some 0, none, ⟨later, "", log ++ if verbose then "INFO geodsl.geodsl_cli: wrote " ++ path ++ "\n" else ""⟩⟩

theorem render_steps (workspace : Workspace) (unseeded : Jitter) (request : Request) (verbose : Bool) :
    renderSteps unseeded request verbose ⟨workspace, "", ""⟩ =
      ofResult (rendered workspace unseeded request) ⟨workspace, "", logged workspace unseeded request verbose⟩ := by
  rw [renderSteps, rendered, logged, run]
  simp only [bind, EStateM.bind, look, ofResult]
  cases prepared : prepare workspace unseeded request with
  | error failure => cases verbose <;> rfl
  | ok start =>
      obtain ⟨format, jitter, source⟩ := start
      simp only [log, String.empty_append, Except.bind]

theorem run_rendered (workspace : Workspace) (unseeded : Jitter) (request : Request) :
    (run workspace unseeded request).result = rendered workspace unseeded request >>= checkOutput workspace request := by
  rw [run, rendered]
  cases prepared : prepare workspace unseeded request with
  | error failure => rfl
  | ok start => rfl

theorem ending_escaped (failure : Failure) (noViolation : ∀ error, failure ≠ .unreadable (.violation error)) (world : World) :
    ending (.error failure world) = ⟨none, some failure, world⟩ := by
  rw [ending.eq_def]
  split
  · rename_i same
    cases same
  · rename_i same
    cases same
    exact absurd rfl (noViolation _)
  · rename_i same
    cases same
    rfl

theorem log_without_file (verbose : Bool) (journal : List Event) :
    (if verbose then journalText journal ++ writtenText none else "") = if verbose then journalText journal else "" := by
  have none : writtenText none = "" := rfl
  rw [none, String.append_empty]

theorem report_failed (workspace : Workspace) (request : Request) (verbose : Bool) (journal : List Event) (failure : Failure) :
    (report request verbose ⟨journal, .error failure⟩).ending workspace =
      ending (.error failure ⟨workspace, "", if verbose then journalText journal else ""⟩) := by
  rw [report]
  simp only [deliver, log_without_file]
  cases failure with
  | unreadable fault => cases fault <;> rfl
  | unknownFormat name => rfl
  | blankSeed => rfl
  | badPath fault path => rfl
  | undecodable => rfl
  | unwritable error => rfl

theorem report_shown (workspace : Workspace) (request : Request) (verbose : Bool) (journal : List Event) (text : String)
    (noFile : request.outputFile? = none) : (report request verbose ⟨journal, .ok text⟩).ending workspace =
      ⟨some 0, none, ⟨workspace, text ++ "\n", if verbose then journalText journal else ""⟩⟩ := by
  rw [report]
  simp only [deliver, noFile, log_without_file]
  rfl

theorem report_saved (workspace : Workspace) (request : Request) (verbose : Bool) (journal : List Event) (text path : String)
    (place : Place) (file : request.outputFile? = some path) (target : workspace.target path = .ok place) :
    (report request verbose ⟨journal, .ok text⟩).ending workspace =
      ⟨some 0, none, ⟨workspace.overwrite place (text ++ "\n"), "", (if verbose then journalText journal else "") ++
        if verbose then writtenText (some (path, text ++ "\n")) else ""⟩⟩ := by
  rw [report]
  simp only [deliver, file]
  rw [Transcript.ending]
  simp only [target]
  cases verbose <;> simp

theorem performed_failed (workspace : Workspace) (unseeded : Jitter) (request : Request) (verbose : Bool) (failure : Failure)
    (failed : rendered workspace unseeded request = .error failure) : performed workspace unseeded request verbose =
      ending (.error failure ⟨workspace, "", logged workspace unseeded request verbose⟩) := by
  rw [performed]
  simp only [bind, EStateM.bind, render_steps, failed, ofResult]

theorem performed_on (workspace : Workspace) (unseeded : Jitter) (request : Request) (verbose : Bool) (text : String)
    (done : rendered workspace unseeded request = .ok text) : performed workspace unseeded request verbose =
      ending (deliverSteps request verbose text ⟨workspace, "", logged workspace unseeded request verbose⟩) := by
  rw [performed]
  simp only [bind, EStateM.bind, render_steps, done, ofResult]

theorem deliver_shown (workspace : Workspace) (request : Request) (verbose : Bool) (text errors : String)
    (noFile : request.outputFile? = none) :
    deliverSteps request verbose text ⟨workspace, "", errors⟩ = .ok () ⟨workspace, text ++ "\n", errors⟩ := by
  simp only [deliverSteps, noFile, display, String.empty_append]

theorem deliver_blocked (workspace : Workspace) (request : Request) (verbose : Bool) (text errors path : String)
    (fault : PathFault) (file : request.outputFile? = some path) (target : workspace.target path = .error fault) :
    deliverSteps request verbose text ⟨workspace, "", errors⟩ = .error (.badPath fault path) ⟨workspace, "", errors⟩ := by
  simp only [deliverSteps, file, save, bind, EStateM.bind, look, target]
  rfl

theorem deliver_saved (workspace : Workspace) (request : Request) (verbose : Bool) (text errors path : String)
    (place : Place) (file : request.outputFile? = some path) (target : workspace.target path = .ok place) :
    deliverSteps request verbose text ⟨workspace, "", errors⟩ =
      .ok () ⟨workspace.overwrite place (text ++ "\n"), "", errors ++ if verbose then writtenText (some (path, text ++ "\n")) else ""⟩ := by
  simp only [deliverSteps, file, save, bind, EStateM.bind, look, target]
  rfl

theorem check_output_blocked (workspace : Workspace) (request : Request) (text path : String) (fault : PathFault)
    (file : request.outputFile? = some path) (target : workspace.target path = .error fault) :
    checkOutput workspace request text = .error (.badPath fault path) := by
  rw [checkOutput, file]
  simp only [target]

-- The outcome is the same whether the output is checked before the call is reported, or when it is opened.
theorem performed_report (workspace : Workspace) (unseeded : Jitter) (request : Request) (verbose : Bool) :
    performed workspace unseeded request verbose = (report request verbose (run workspace unseeded request)).ending workspace := by
  have result := run_rendered workspace unseeded request
  have log := logged.eq_1 workspace unseeded request verbose
  generalize run workspace unseeded request = outcome at result log ⊢
  obtain ⟨journal, told⟩ := outcome
  dsimp only at result log
  subst result
  cases done : rendered workspace unseeded request with
  | error failure =>
      rw [performed_failed _ _ _ _ _ done, log]
      exact (report_failed workspace request verbose journal failure).symm
  | ok text =>
      rw [performed_on _ _ _ _ _ done, log]
      cases file : request.outputFile? with
      | none =>
          have passed : checkOutput workspace request text = .ok text := by rw [checkOutput, file]
          rw [deliver_shown _ _ _ _ _ file]
          simp only [bind, Except.bind, passed]
          exact (report_shown workspace request verbose journal text file).symm
      | some path =>
          cases target : workspace.target path with
          | error fault =>
              rw [deliver_blocked _ _ _ _ _ _ _ file target]
              simp only [bind, Except.bind, check_output_blocked _ _ _ _ _ file target]
              exact (report_failed workspace request verbose journal _).symm
          | ok place =>
              have passed : checkOutput workspace request text = .ok text := by
                rw [checkOutput, file]
                simp only [target]
              rw [deliver_saved _ _ _ _ _ _ _ file target]
              simp only [bind, Except.bind, passed]
              exact (report_saved workspace request verbose journal text path place file target).symm

theorem steps_conclude (workspace : Workspace) (unseeded : Jitter) (request : Request) (verbose : Bool) :
    Concluded workspace request verbose (logged workspace unseeded request verbose) (rendered workspace unseeded request)
      (performed workspace unseeded request verbose) := by
  cases done : rendered workspace unseeded request with
  | error failure =>
      rw [performed_failed _ _ _ _ _ done]
      by_cases violation : ∃ error, failure = .unreadable (.violation error)
      · obtain ⟨error, rfl⟩ := violation
        exact .reported error
      · have noViolation : ∀ error, failure ≠ .unreadable (.violation error) := fun error same => violation ⟨error, same⟩
        rw [ending_escaped failure noViolation]
        exact .escaped failure noViolation
  | ok text =>
      rw [performed_on _ _ _ _ _ done]
      cases file : request.outputFile? with
      | none =>
          rw [deliver_shown _ _ _ _ _ file]
          exact .shown text file
      | some path =>
          cases target : workspace.target path with
          | error fault =>
              rw [deliver_blocked _ _ _ _ _ _ _ file target, ending_escaped _ fun _ => Failure.noConfusion]
              exact .unwritable text path fault file target
          | ok place =>
              rw [deliver_saved _ _ _ _ _ _ _ file target]
              exact .saved text path place _ file target (workspace.overwrite_replaced place (text ++ "\n"))

theorem concluded_exit (workspace : Workspace) (request : Request) (verbose : Bool) (log : String)
    (result : Except Failure String) (ending : Ending) (concluded : Concluded workspace request verbose log result ending) :
    ending.exit = some 1 ↔ ∃ error, result = .error (.unreadable (.violation error)) := by
  cases concluded with
  | reported error => exact iff_of_true rfl ⟨error, rfl⟩
  | escaped failure noViolation =>
      refine iff_of_false (by simp) ?_
      rintro ⟨error, same⟩
      exact noViolation error (Except.error.inj same)
  | shown _ _ => exact iff_of_false (by simp) (by simp)
  | unwritable _ _ _ _ _ => exact iff_of_false (by simp) (by simp)
  | saved _ _ _ _ _ _ _ => exact iff_of_false (by simp) (by simp)

theorem report_delivered (request : Request) (verbose : Bool) (outcome : Outcome) :
    (report request verbose outcome).written = (deliver request outcome.result).written ∧
      (report request verbose outcome).output = (deliver request outcome.result).output := by
  rw [report]
  split <;> exact ⟨rfl, rfl⟩

-- A run that fails before its output leaves the files as they were and shows no text. One that succeeds puts its
-- text in one place.
theorem failing_run_leaves_everything (workspace : Workspace) (unseeded : Jitter) (words : List String)
    (request : Request) (verbose : Bool) (parsed : parseArguments words = .ok (request, verbose)) :
    (call workspace unseeded words).ending workspace = performed workspace unseeded request verbose ∧
      Concluded workspace request verbose (logged workspace unseeded request verbose) (rendered workspace unseeded request)
        ((call workspace unseeded words).ending workspace) ∧
      (∀ failure, rendered workspace unseeded request = .error failure →
        (call workspace unseeded words).written = none ∧ (call workspace unseeded words).output = "") ∧
      ((call workspace unseeded words).exit = some 1 ↔
        ∃ error, rendered workspace unseeded request = .error (.unreadable (.violation error))) := by
  have told : call workspace unseeded words = report request verbose (run workspace unseeded request) := by rw [call, parsed]
  have steps := performed_report workspace unseeded request verbose
  have concluded := steps_conclude workspace unseeded request verbose
  rw [steps] at concluded
  rw [told]
  refine ⟨steps.symm, concluded, fun failure failed => ?_, concluded_exit _ _ _ _ _ _ concluded⟩
  have result : (run workspace unseeded request).result = .error failure := by
    rw [run_rendered, failed]
    rfl
  obtain ⟨written, output⟩ := report_delivered request verbose (run workspace unseeded request)
  rw [written, output, result]
  exact ⟨rfl, rfl⟩

-- The output would go over the source, in which there is no figure to draw.
def sourceInPlace : Workspace := ⟨[(["a"], "DRAW .".toUTF8)], [], .empty⟩

theorem source_in_place_contents : sourceInPlace.contents "a" = .ok "DRAW .".toUTF8 := by
  have passed : checkPath "a" = .ok () := by with_unfolding_all rfl
  have names : "a".splitOn "/" = ["a"] := by
    rw [String.splitOn, if_neg (by decide), String.splitOnAux, String.splitOnAux]
    decide +kernel
  have route : Place.route "a" = ([], ["a"]) := by
    rw [Place.route, names]
    rfl
  rw [Workspace.contents, passed, route]
  rfl

theorem source_in_place_rendered (unseeded : Jitter) :
    rendered sourceInPlace unseeded ⟨"a", false, some "json", some "a", .free⟩ =
      .error (.unreadable (.violation ⟨.objectName, 5, "."⟩)) := by
  have text : sourceInPlace.readFile "a" = .ok "DRAW ." := by
    rw [Workspace.readFile, source_in_place_contents]
    rfl
  have taken : prepare sourceInPlace unseeded ⟨"a", false, some "json", some "a", .free⟩ =
      .ok (.document, unseeded, "DRAW .") := by
    have source : Request.readSource ⟨"a", false, some "json", some "a", .free⟩ sourceInPlace = .ok "DRAW ." := text
    rw [prepare]
    simp only [source]
    rfl
  rw [rendered, taken]
  dsimp only [bind, Except.bind]
  rw [bare_operator_reading]
  rfl

theorem source_in_place_kept : (call sourceInPlace (.cycle [3]) ["a", "-o", "a"]).ending sourceInPlace =
    ⟨some 1, none, ⟨sourceInPlace, "", (SyntaxError.mk .objectName 5 ".").message ++ "\n"⟩⟩ := by
  have parsed : parseArguments ["a", "-o", "a"] = .ok (⟨"a", false, some "json", some "a", .free⟩, false) := by
    decide +kernel
  have failed := source_in_place_rendered (.cycle [3])
  obtain ⟨_, concluded, _⟩ := failing_run_leaves_everything sourceInPlace (.cycle [3]) _ _ _ parsed
  rw [failed] at concluded
  generalize (call sourceInPlace (.cycle [3]) ["a", "-o", "a"]).ending sourceInPlace = ending at concluded
  cases concluded with
  | reported error =>
      rw [logged, if_neg Bool.false_ne_true, String.empty_append]
  | escaped _ noViolation => exact absurd rfl (noViolation _)

end Tool

end Straightedge
