import Parlance.CommandLine.Arguments
import Parlance.Session

/-!
# The command line

Makes the generated module of a project. The exit status is 0 when the module was written, 1 when a
fault was printed, and 2 when the command line is not understood. A failure that there are no words
for is not caught.
-/

namespace Parlance.CommandLine

/-- How a command line ends. -/
inductive Ending where
  | status (code : Nat)
  | failed (f : Failure)
deriving DecidableEq, Repr

/-- What a command line does. -/
structure Outcome where
  ending : Ending
  /-- What it prints about a fault. -/
  errors : String
  logs : List LogRecord
  files : FileSystem
deriving Repr

/-- A fault as it is printed. -/
def faultText (format : DiagnosticFormat) (f : Fault) : String :=
  match f.diagnostic? with
  | some d => d.render format false ++ "\n"
  | none => s!"error: {f.text}\n"

/-- The outcome of a failure. -/
def failed (format : DiagnosticFormat) (logs : List LogRecord) (fs : FileSystem) :
    Failure → Outcome
  | .fault f => ⟨.status 1, faultText format f, logs, fs⟩
  | f => ⟨.failed f, "", logs, fs⟩

/-- Runs what a command line asks for on the files below a directory. -/
def perform (decoder : JsonDecoder) (base : Path) (files : FileSystem) (i : Invocation) : Outcome :=
  let fs := { files with mount := some ⟨i.project, base⟩ }
  match Config.load .standard fs "." [] i.configFile with
  | ⟨.error e, logs⟩ => failed i.format logs fs e
  | ⟨.ok config, logs⟩ =>
    let (work, x) := Session.run i.reportFile ⟨.start decoder config ".", fs⟩
    match x.result with
    | .error e => failed i.format (logs ++ x.logs) work.files e
    | .ok _ => ⟨.status 0, "", logs ++ x.logs, work.files⟩

/-- Runs a command line. -/
def execute (decoder : JsonDecoder) (base : Path) (files : FileSystem) (arguments : List String) :
    Outcome :=
  match parse arguments with
  | .run i => perform decoder base files i
  | .help => ⟨.status 0, "", [], files⟩
  | .invalid => ⟨.status 2, "", [], files⟩

end Parlance.CommandLine
