import Reflow.CommandLine.Options
import Reflow.CommandLine.SourcePath
import Reflow.Diagram.Request
import Reflow.Text.Number

/-!
# Invocations

What a command line asks for: the version, the usage, the list of subjects, one diagram, or the
check of a file. Whoever asks for the usage gets it, whatever the other options say; only options
that cannot be told apart come first.
-/

namespace Reflow

/-- The check of a file. -/
structure CheckOrder where
  path : String
  language : Option Language
  settings : Settings
  diagrams : Bool
deriving DecidableEq, Repr

/-- A command. -/
inductive Command where
  | check (order : CheckOrder)
  | diagram (fields : List (String × Datum))
  | types
  | help
deriving Repr

/-- What a command line asks for. -/
inductive Invocation where
  | version
  | run (verbose : Bool) (command : Command)
deriving Repr

namespace Command

open Arguments

/-- An option with a value. -/
def valued (name : String) : OptionSpec := ⟨name, none, true⟩

/-- The option that asks for the usage. -/
def helpOption : OptionSpec := ⟨"--help", none, false⟩

/-- The options of a check. -/
def checkOptions : List OptionSpec :=
  ["--language", "--mode", "--width-threshold", "--height-threshold", "--spacing-threshold",
    "--ignore", "--max-problems"].map valued ++ [⟨"--diagrams", none, false⟩, helpOption]

/-- The options of a diagram. -/
def diagramOptions : List OptionSpec :=
  ["--type", "--value", "--suggestion", "--severity", "--line", "--selector", "--property"].map
    valued ++ [helpOption]

/-- A natural number as an option's value. -/
def readCount? (text : String) : Option Int := (Text.readInteger? text).filter (0 ≤ ·)

/-- The check of a file. -/
def check? (a : Arguments) : Except UsageError Command := do
  let standard := Settings.standard
  let language ← a.reading "--language" (fun t => (choice? Language.all (·.name) t).map some) none
  let mode ← a.reading "--mode" (choice? Mode.all (·.name)) standard.mode
  let width ← a.reading "--width-threshold" Text.readDouble? standard.widthThreshold
  let height ← a.reading "--height-threshold" Text.readDouble? standard.heightThreshold
  let spacing ← a.reading "--spacing-threshold" Text.readDouble? standard.spacingThreshold
  let maxProblems ← a.reading "--max-problems" readCount? standard.maxProblems
  let settings : Settings :=
    { mode
      widthThreshold := width
      heightThreshold := height
      spacingThreshold := spacing
      ignored := Settings.ignoredTexts (a.values "--ignore")
      maxProblems }
  match a.operands with
  | [] => throw (.operandMissing "PATH")
  | path :: rest =>
    if path.contains '\x00' then throw .badPath
    if !rest.isEmpty then throw .operandExtra
    return .check ⟨path, language, settings, a.flag "--diagrams"⟩

/-- One diagram. -/
def diagram? (a : Arguments) : Except UsageError Command := do
  let subject ← a.required "--type"
  let value ← a.required "--value"
  let severity ← a.reading "--severity" (choice? Severity.all (·.name)) .medium
  let line ← a.reading "--line" Text.readInteger? 1
  let textOr (name standard : String) := Datum.text ((a.value? name).getD standard)
  if !a.operands.isEmpty then throw .operandExtra
  return .diagram [
    ("type", .text subject), ("severity", .text severity.name), ("line", .int line),
    ("selector", textOr "--selector" ".element"), ("property", textOr "--property" "width"),
    ("value", .text value), ("suggestion", textOr "--suggestion" "")]

/-- The list of subjects. -/
def types? (a : Arguments) : Except UsageError Command := do
  if !a.operands.isEmpty then throw .operandExtra
  return .types

/-- A command with the given options, or its usage if they ask for it. -/
def readWith (specs : List OptionSpec) (command? : Arguments → Except UsageError Command)
    (args : List String) : Except UsageError Command := do
  let a ← read specs true args
  if a.flag helpOption.name then return .help
  command? a

/-- The command of that name with its arguments. -/
def parse (name : String) (args : List String) : Except UsageError Command :=
  match name with
  | "check" => readWith checkOptions check? args
  | "diagram" => readWith diagramOptions diagram? args
  | "types" => readWith [helpOption] types? args
  | _ => .error (.unknownCommand name)

/-- The file that a command reads. -/
def path? : Command → Option String
  | check order => some order.path
  | diagram _ | types | help => none

end Command

namespace Invocation

/-- The options in front of a command. -/
def options : List OptionSpec :=
  [⟨"--version", none, false⟩, ⟨"--verbose", some 'v', false⟩, Command.helpOption]

/-- What the arguments ask for. Version and usage win over any command, and of the two the one that
is asked for first. -/
def parse (args : List String) : Except UsageError Invocation := do
  let a ← Arguments.read options false args
  let verbose := a.flag "--verbose"
  match a.firstOf? ["--version", "--help"], a.operands with
  | some "--version", _ => return .version
  | some _, _ => return .run verbose .help
  | none, [] => throw .commandMissing
  | none, name :: rest => return .run verbose (← Command.parse name rest)

/-- The file that an invocation reads. -/
def path? : Invocation → Option String
  | version => none
  | run _ command => command.path?

end Invocation

end Reflow
