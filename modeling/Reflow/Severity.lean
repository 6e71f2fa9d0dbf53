import Reflow.Text.Blank
import Reflow.Text.Case
import Reflow.Text.Quoted

/-!
# Severity of a finding

Severities are read up to letter case and surrounding blanks.
-/

namespace Reflow

/-- How bad a finding is. -/
inductive Severity where
  | critical
  | medium
  | low
deriving DecidableEq, Repr

namespace Severity

/-- The severities, worst first. -/
def all : List Severity := [.critical, .medium, .low]

/-- The name of a severity. -/
def name : Severity → String
  | critical => "critical"
  | medium => "medium"
  | low => "low"

/-- The name in capitals, as reports show it. -/
def label : Severity → String
  | critical => "CRITICAL"
  | medium => "MEDIUM"
  | low => "LOW"

/-- The place in an order from the worst. -/
def rank : Severity → Nat
  | critical => 0
  | medium => 1
  | low => 2

/-- A text that names no severity, in lower case and without surrounding blanks. -/
structure Unknown where
  given : String
deriving DecidableEq, Repr

/-- The message for a text that names no severity. -/
def Unknown.message (e : Unknown) : String := Text.quoted e.given ++ " is not a valid Severity"

/-- The severity that a text names. -/
def parse (text : String) : Except Unknown Severity :=
  let given := String.ofList (Text.lower (Text.trim text.toList))
  match all.find? (·.name = given) with
  | some severity => .ok severity
  | none => .error ⟨given⟩

end Severity

end Reflow
