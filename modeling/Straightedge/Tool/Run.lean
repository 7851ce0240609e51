import Straightedge.Document
import Straightedge.Jitter.Twister
import Straightedge.Tool.Workspace

namespace Straightedge

inductive Seed where
  | free
  | blank
  | fixed (value : Int)
deriving DecidableEq

structure Request where
  source : String
  literal : Bool
  format : Option String
  output : Option String
  seed : Seed
deriving DecidableEq

inductive Format where
  | document
  | source
deriving DecidableEq

namespace Format

def name : Format → String
  | .document => "json"
  | .source => "source"

def all : List Format := [.document, .source]

def ofName? (name : String) : Option Format := all.find? fun format => format.name == name

def render (drawing : Drawing) (table : Table) : Format → Except WriteError String
  | .document => .ok ((reportDocument drawing table).print 0)
  | .source => Task.write drawing

end Format

namespace Request

-- The standard input is decoded strictly, whatever the locale asks for.
def readSource (request : Request) (workspace : Workspace) : Except Failure String :=
  if request.literal then .ok request.source
  else if request.source = "-" then decode workspace.input
  else workspace.readFile request.source

def jitter (request : Request) (unseeded : Jitter) : Except Failure Jitter :=
  match request.seed with
  | .free => .ok unseeded
  | .blank => .error .blankSeed
  | .fixed seed => .ok (.seeded seed)

def outputFile? (request : Request) : Option String := request.output.filter (· ≠ "")

end Request

-- The journal reaches as far as the run did.
structure Outcome where
  journal : List Event
  result : Except Failure String

def renderReading (format : Format) (reading : Reading) : Except Failure String :=
  match reading.result with
  | .error fault => .error (.unreadable fault)
  | .ok (drawing, table) => (format.render drawing table).mapError .unwritable

def checkOutput (workspace : Workspace) (request : Request) (text : String) :
    Except Failure String :=
  match request.outputFile? with
  | none => .ok text
  | some path =>
      match workspace.target path with
      | .ok _ => .ok text
      | .error fault => .error (.badPath fault path)

-- The format is looked at before the source is, and the seed after it.
def prepare (workspace : Workspace) (unseeded : Jitter) (request : Request) :
    Except Failure (Format × Jitter × String) :=
  match request.format.bind Format.ofName? with
  | none => .error (.unknownFormat request.format)
  | some format => do
      let source ← request.readSource workspace
      let jitter ← request.jitter unseeded
      return (format, jitter, source)

def run (workspace : Workspace) (unseeded : Jitter) (request : Request) : Outcome :=
  match prepare workspace unseeded request with
  | .error failure => ⟨[], .error failure⟩
  | .ok (format, jitter, source) =>
      let reading := Reading.ofSource jitter source
      ⟨reading.journal, renderReading format reading >>= checkOutput workspace request⟩

structure Delivery where
  output : String
  written : Option (String × String)

def deliver (request : Request) : Except Failure String → Delivery
  | .error _ => ⟨"", none⟩
  | .ok text =>
      match request.outputFile? with
      | none => ⟨text ++ "\n", none⟩
      | some path => ⟨"", some (path, text ++ "\n")⟩

end Straightedge
