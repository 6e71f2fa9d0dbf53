import Reflow.CommandLine.Invocation
import Reflow.Report.Projection
import Reflow.Studio
import Reflow.Text.ControlSequence
import Reflow.Text.Utf8

/-!
# The command line

Runs an invocation on the bytes of the file it names, in a studio, and gives what is written and the
exit code. The journal goes to the errors: all of it if asked for, else only the warnings. The
output is for files and pipes and has no control sequences in it, the journal is left as it is.

* `CommandLine.run` runs an invocation.
* `CommandLine.answer` reads the arguments first.
-/

namespace Reflow

/-- What a run writes, and its exit code. -/
structure Outcome where
  exit : Nat
  output : String
  errors : String
deriving DecidableEq, Repr

/-- Why a run has no outcome. -/
inductive RunError where
  | usage (cause : UsageError)
  | analysis (cause : Analysis.Error)
  | illustration (cause : IllustrationError)
deriving DecidableEq, Repr

/-- The message of an error. -/
def RunError.message : RunError → String
  | usage cause => cause.message
  | analysis cause => cause.message
  | illustration cause => cause.message

namespace CommandLine

/-- A line of output. -/
def line (text : String) : String := text ++ "\n"

/-- The entries of the journal that are shown, a line each. -/
def journalLines (verbose : Bool) (journal : List Journal.Entry) : String :=
  let shown := journal.filter fun e => verbose || e.level = .warning
  String.join (shown.map fun e => line e.line)

/-! ## Checks -/

/-- The place of a finding: path, line and column. -/
def location (path : SourcePath) (f : Finding) : String :=
  let column := (f.span.map (·.startColumn)).getD 0
  path.shown ++ ":" ++ toString (f.line.getD 0) ++ ":" ++ toString column

/-- Whether a finding comes no later than another: by line, then by severity. -/
def notAfter (a b : Finding) : Bool :=
  let lineA := a.line.getD 0
  let lineB := b.line.getD 0
  lineA < lineB || lineA = lineB && a.severity.rank ≤ b.severity.rank

/-- How many findings are of a severity. -/
def count (findings : List Finding) (severity : Severity) : Nat :=
  findings.countP (·.severity = severity)

/-- The last line of a check with findings. -/
def summaryLine (findings : List Finding) : String :=
  "Summary: " ++ ", ".intercalate
    (Severity.all.map fun s => toString (count findings s) ++ " " ++ s.name)

/-- The lines of findings, each with a diagram if there is a studio for it, and the studio's
journal. -/
def findingLines (path : SourcePath) (studio : Option Studio) :
    List Finding → Except IllustrationError (String × List Journal.Entry)
  | [] => .ok ("", (studio.map (·.journal)).getD [])
  | f :: rest => do
    let heading := line (location path f ++ ": " ++ f.headline)
    match studio, f.request? with
    | some s, some request =>
      let (result, after) := s.illustrate (.draft request.toDraft)
      let diagram ← result
      let (text, journal) ← findingLines path (some after) rest
      return (heading ++ line diagram.text ++ text, journal)
    | _, _ =>
      let (text, journal) ← findingLines path studio rest
      return (heading ++ text, journal)

/-- What a check writes about its findings. -/
def report (studio : Studio) (verbose : Bool) (path : SourcePath) (diagrams : Bool)
    (result : Analysis.Result) : Except RunError Outcome :=
  if result.findings.isEmpty then
    .ok ⟨0, line ("OK: " ++ path.name ++ " (0 issues)"), journalLines verbose result.journal⟩
  else
    let sorted := result.findings.mergeSort notAfter
    match findingLines path (if diagrams then some studio else none) sorted with
    | .error e => .error (.illustration e)
    | .ok (text, journal) =>
      .ok ⟨if count result.findings .critical = 0 then 0 else 1,
        text ++ line "" ++ line (summaryLine result.findings),
        journalLines verbose (result.journal ++ journal)⟩

/-- Checks the bytes of a file. -/
def check (studio : Studio) (verbose : Bool) (order : CheckOrder) (bytes : List UInt8) :
    Except RunError Outcome :=
  let path := SourcePath.ofText order.path
  match Text.Utf8.decode bytes with
  | .error e => .ok ⟨2, "", line ("Error: " ++ e.message)⟩
  | .ok text =>
    let source := String.ofList (Text.Utf8.unifyLineEnds text)
    let language := order.language.getD path.language
    match analyze source language.name order.settings Check.all with
    | .error e => .error (.analysis e)
    | .ok result => report studio verbose path order.diagrams result

/-! ## Other commands -/

/-- One diagram. -/
def diagram (studio : Studio) (verbose : Bool) (fields : List (String × Datum)) :
    Except RunError Outcome :=
  match studio.illustrate (.loose (.fields fields)) with
  | (.error e, _) => .error (.illustration e)
  | (.ok d, studio) => .ok ⟨0, line d.text, journalLines verbose studio.journal⟩

/-- The list of subjects. -/
def types (studio : Studio) : Outcome :=
  ⟨0, String.join (studio.roster.subjects.map line), ""⟩

/-- The name and version of the program. -/
def version : Outcome := ⟨0, line "boxlint, version 0.1.0", ""⟩

/-- How to call the program. -/
def usage : String := "Usage: boxlint [OPTIONS] COMMAND [ARGS]..."

/-- The usage of the program. -/
def help : Outcome := ⟨0, line usage, ""⟩

/-- Runs an invocation, before control sequences are taken out of the output. `bytesOf` gives the
bytes of a file that can be read. -/
def runRaw (studio : Studio) (bytesOf : String → Option (List UInt8)) :
    Invocation → Except RunError Outcome
  | .version => .ok version
  | .run _ .help => .ok help
  | .run _ .types => .ok (types studio)
  | .run verbose (.diagram fields) => diagram studio verbose fields
  | .run verbose (.check order) =>
    match bytesOf order.path with
    | none => .error (.usage (.noFile order.path))
    | some bytes => check studio verbose order bytes

/-- Runs an invocation. -/
def run (studio : Studio) (bytesOf : String → Option (List UInt8)) (invocation : Invocation) :
    Except RunError Outcome :=
  (runRaw studio bytesOf invocation).map fun o => { o with output := Text.withoutControls o.output }

/-- Reads the arguments and runs what they ask for. -/
def answer (studio : Studio) (bytesOf : String → Option (List UInt8)) (args : List String) :
    Except RunError Outcome :=
  match Invocation.parse args with
  | .error e =>
    if e.standsAlone then .ok ⟨2, "", line ("Error: " ++ e.message)⟩ else .error (.usage e)
  | .ok invocation => run studio bytesOf invocation

end CommandLine

end Reflow
