import Reflow.Report.Projection
import Reflow.Studio

/-!
# Summaries

How many findings there are of each severity and category, and one row for each of them. With a
studio the rows have diagrams.
-/

namespace Reflow

/-- A row of a summary. -/
structure SummaryRow where
  index : Nat
  finding : Finding
  category : Category
  diagram : Option String
deriving DecidableEq, Repr

/-- The rows of a summary. -/
structure Summary where
  rows : List SummaryRow
deriving DecidableEq, Repr

namespace Summary

/-- The category of a finding. -/
def categoryOf (f : Finding) : Category := .ofLabel f.kind.label

/-- How many rows are of a severity. -/
def severityCount (s : Summary) (severity : Severity) : Nat :=
  s.rows.countP (·.finding.severity = severity)

/-- How many rows are of a category. -/
def categoryCount (s : Summary) (category : Category) : Nat :=
  s.rows.countP (·.category = category)

/-- The text of a finding's diagram, if its kind has one, and the studio afterwards. -/
def diagramOf (studio : Studio) (f : Finding) : Except IllustrationError (Option String) × Studio :=
  match f.request? with
  | none => (.ok none, studio)
  | some request =>
    let (result, studio) := studio.illustrate (.draft request.toDraft)
    (result.map fun d => some d.text, studio)

/-- The diagrams of findings, one after the other in one studio. -/
def diagramsOf (studio : Studio) : List Finding → Except IllustrationError (List (Option String))
  | [] => .ok []
  | f :: rest => do
    let (result, after) := diagramOf studio f
    let diagram ← result
    let diagrams ← diagramsOf after rest
    return diagram :: diagrams

/-- The rows of findings with their diagrams. -/
def ofDiagrams (findings : List Finding) (diagrams : List (Option String)) : Summary :=
  ⟨(findings.zip diagrams).zipIdx.map fun ((f, d), index) => ⟨index, f, categoryOf f, d⟩⟩

/-- The summary of findings without diagrams. -/
def plain (findings : List Finding) : Summary :=
  ofDiagrams findings (findings.map fun _ => none)

/-- The summary of findings with diagrams made in a studio. -/
def illustrated (studio : Studio) (findings : List Finding) : Except IllustrationError Summary :=
  (diagramsOf studio findings).map (ofDiagrams findings)

end Summary

end Reflow
