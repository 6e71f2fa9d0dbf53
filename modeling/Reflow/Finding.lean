import Reflow.Kind
import Reflow.Text.Integer

/-!
# Findings

A finding is a layout risk at a rule: its kind, wording, selector and the declaration at fault. The
checks leave its place open; it is filled in by a search in the source.
-/

namespace Reflow

/-- A stretch of the source. Lines count from one, columns from zero. -/
structure Span where
  startLine : Int
  startColumn : Int
  endLine : Int
  endColumn : Int
deriving DecidableEq, Repr

/-- A layout risk. -/
structure Finding where
  kind : Kind
  wording : Wording
  selector : String
  property : Option String
  value : Option String
  line : Option Int
  span : Option Span
deriving DecidableEq, Repr

namespace Finding

/-- A finding of standard wording about one declaration, without a place. -/
def about (kind : Kind) (selector property value : String) : Finding :=
  ⟨kind, kind.wording, selector, some property, some value, none, none⟩

/-- The severity of a finding. -/
def severity (f : Finding) : Severity := f.wording.severity

/-- The finding with a place in the source. -/
def placedAt (f : Finding) (line : Int) (span : Span) : Finding :=
  { f with line := some line, span := some span }

/-- Whether the finding has a place. -/
def isPlaced (f : Finding) : Bool := f.line.isSome

/-- The label of the kind as one word: in lower case, hyphens for the blanks. -/
def code (f : Finding) : String :=
  "-".intercalate ((Text.words (Text.lower (Text.trim f.kind.label.toList))).map String.ofList)

/-- Severity, kind and selector of a finding. -/
def headline (f : Finding) : String :=
  f.severity.label ++ " " ++ f.kind.label ++ " [" ++ f.selector ++ "]"

/-- The finding in one line, with its line number if it has one. -/
def summary (f : Finding) : Except Text.DigitError String :=
  match f.line with
  | some line => return "L" ++ (← Text.writeInteger line) ++ " " ++ f.headline
  | none => return f.headline

end Finding

end Reflow
