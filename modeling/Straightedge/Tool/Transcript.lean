import Straightedge.Tool.Options

namespace Straightedge.Tool

def usage : String :=
  "usage: geodsl [-h] [-s] [-f \x7bjson,source\x7d] [-o OUTFILE] [--seed SEED]\n" ++
  "              [--verbose]\n" ++
  "              source\n"

def help : String :=
  usage ++
  "\n" ++
  "positional arguments:\n" ++
  "  source                Filename, '-' for stdin, or raw source (with -s)\n" ++
  "\n" ++
  "options:\n" ++
  "  -h, --help            show this help message and exit\n" ++
  "  -s, --string          Interpret source as literal string\n" ++
  "  -f \x7bjson,source\x7d, --format \x7bjson,source\x7d\n" ++
  "                        Output format (default: json)\n" ++
  "  -o OUTFILE, --out OUTFILE\n" ++
  "                        Output to file\n" ++
  "  --seed SEED           Seed for inferred coordinates\n" ++
  "  --verbose             Debug logging\n"

structure Transcript where
  exit : Option Nat
  output : String
  errors : String
  written : Option (String × String)
  failure : Option Failure

def eventText : Event → String
  | .command operator kind => "command " ++ operator ++ " " ++ kind
  | .inferred name coords =>
      "inferred coordinates for " ++ name ++ ": (" ++ coords.x.text Layout.short ++ ", " ++
        coords.y.text Layout.short ++ ")"
  | .finished commands names =>
      "parsed " ++ toString commands ++ " command(s), " ++ toString names ++ " identifier(s)"

def journalText (journal : List Event) : String :=
  String.join (journal.map fun event => "DEBUG geodsl.geodsl_parser: " ++ eventText event ++ "\n")

def writtenText (written : Option (String × String)) : String :=
  match written with
  | some (path, _) => "INFO geodsl.geodsl_cli: wrote " ++ path ++ "\n"
  | none => ""

def report (request : Request) (verbose : Bool) (outcome : Outcome) : Transcript :=
  let delivery := deliver request outcome.result
  let log := if verbose then journalText outcome.journal ++ writtenText delivery.written else ""
  let ended (exit : Option Nat) (errors : String) (failure : Option Failure) : Transcript :=
    ⟨exit, delivery.output, errors, delivery.written, failure⟩
  match outcome.result with
  | .ok _ => ended (some 0) log none
  | .error (.unreadable (.violation error)) => ended (some 1) (log ++ error.message ++ "\n") none
  | .error failure => ended none log (some failure)

def call (workspace : Workspace) (unseeded : Jitter) (words : List String) : Transcript :=
  match parseArguments words with
  | .error .help => ⟨some 0, help, "", none, none⟩
  | .error (.misuse misuse) =>
      ⟨some 2, "", usage ++ "geodsl: error: " ++ misuse.message ++ "\n", none, none⟩
  | .ok (request, verbose) => report request verbose (run workspace unseeded request)

end Straightedge.Tool
