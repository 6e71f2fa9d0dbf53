import Reflow.Category
import Reflow.Datum
import Reflow.Severity

/-!
# Diagram requests

A diagram is asked for with loosely typed fields, or with a draft whose fields may still hold
anything. Both are checked in the same order: the six fields that must be there, the line, the
texts, the severity and the category.

* `Request`: what a diagram is drawn from.
* `Draft`: the fields of a request before they are checked.
* `Submission.request`: the request, or the first thing that is wrong with it. What is wrong is a
  refusal with a message, unless a line or a text cannot be converted.
-/

namespace Reflow

/-- What a diagram is drawn from. The subject may be one that nobody draws. -/
structure Request where
  subject : String
  severity : Severity
  line : Int
  selector : String
  property : String
  value : String
  suggestion : String
  category : Category
deriving DecidableEq, Repr

/-- The fields of a request before they are checked. -/
structure Draft where
  subject : Datum
  severity : Datum
  line : Datum
  selector : Datum
  property : Datum
  value : Datum
  suggestion : Datum
  category : Datum
deriving Repr

/-- The request as a draft. -/
def Request.toDraft (r : Request) : Draft where
  subject := .text r.subject
  severity := .text r.severity.name
  line := .int r.line
  selector := .text r.selector
  property := .text r.property
  value := .text r.value
  suggestion := .text r.suggestion
  category := .text r.category.name

/-- What is wrong with the fields of a request. A line or a category that is refused comes as it is
shown. -/
inductive Refusal where
  | notFields (given : Datum)
  | missing (names : List String)
  | badLine (shown : String)
  | notText (name : String)
  | badSeverity (cause : Severity.Unknown)
  | badCategory (shown : String)
  | unwritable (cause : Text.DigitError)
deriving Repr

/-- The message of a refusal. -/
def Refusal.message : Refusal → String
  | notFields given => "Expected an issue mapping, got " ++ given.shapeName
  | missing names => "Missing required field(s): " ++ ", ".intercalate names
  | badLine shown => "Field 'line' must be a number, got " ++ shown
  | notText name => "Field " ++ Text.quoted name ++ " must be a string"
  | badSeverity cause => cause.message
  | badCategory shown => shown ++ " is not a valid Category"
  | unwritable cause => cause.message

/-- Why there is no request: the fields are refused, the line is an integer past all doubles, or a
bad line or the suggestion has an integer in it that cannot be written. -/
inductive RequestError where
  | refused (cause : Refusal)
  | lineTooLarge
  | unwritable (cause : Text.DigitError)
deriving Repr

/-- The message of an error. -/
def RequestError.message : RequestError → String
  | refused cause => cause.message
  | lineTooLarge => "int too large to convert to float"
  | unwritable cause => cause.message

namespace Draft

/-- The draft with the given fields. A suggestion or category that counts as not given is the
standard one. -/
def ofFields (entries : List (String × Datum)) : Draft :=
  let field := Datum.field entries
  let orElse (value standard : Datum) := if value.isVoid then standard else value
  { subject := field "type"
    severity := field "severity"
    line := field "line"
    selector := field "selector"
    property := field "property"
    value := field "value"
    suggestion := orElse (field "suggestion") (.text "")
    category := orElse (field "category") (.text Category.other.name) }

/-- The fields that must be there, by name. -/
def required (d : Draft) : List (String × Datum) := [
  ("type", d.subject), ("severity", d.severity), ("line", d.line), ("selector", d.selector),
  ("property", d.property), ("value", d.value)]

/-- Whether a field is left out: nothing, or an empty text. -/
def isMissing : Datum → Bool
  | .null => true
  | .text s => s.isEmpty
  | _ => false

/-- The names of the required fields that are left out. -/
def missing (d : Draft) : List String := (d.required.filter fun (_, v) => isMissing v).map (·.1)

/-- The line number in a field: an integer, or a finite double without its fraction. A double must
be able to hold it; the integer part of a double is never too large. -/
def readLine (given : Datum) : Except RequestError Int :=
  match given.integer? with
  | some n => if (Binary64.ofInt n).isFinite then .ok n else .error .lineTooLarge
  | none =>
    match given.shown with
    | .ok shown => .error (.refused (.badLine shown))
    | .error cause => .error (.unwritable cause)

/-- The text in a field. -/
def readText (name : String) : Datum → Except RequestError String
  | .text s => .ok s
  | _ => .error (.refused (.notText name))

/-- The severity that a field names. A field that cannot be written is refused like any other. -/
def readSeverity (given : Datum) : Except RequestError Severity :=
  match given.plainText with
  | .error cause => .error (.refused (.unwritable cause))
  | .ok text =>
    match Severity.parse text with
    | .ok severity => .ok severity
    | .error cause => .error (.refused (.badSeverity cause))

/-- The category that a field is the name of. -/
def categoryIn? : Datum → Option Category
  | .text name => Category.ofName? name
  | _ => none

/-- The category that a field names. A field that cannot be shown is refused like any other. -/
def readCategory (given : Datum) : Except RequestError Category :=
  match categoryIn? given with
  | some category => .ok category
  | none =>
    match given.shown with
    | .ok shown => .error (.refused (.badCategory shown))
    | .error cause => .error (.refused (.unwritable cause))

/-- The suggestion as text. -/
def readSuggestion (given : Datum) : Except RequestError String :=
  given.plainText.mapError .unwritable

/-- The request of a draft, or the first thing that is wrong with it. -/
def request (d : Draft) : Except RequestError Request := do
  if !d.missing.isEmpty then throw (.refused (.missing d.missing))
  let line ← readLine d.line
  let subject ← readText "type" d.subject
  let selector ← readText "selector" d.selector
  let property ← readText "property" d.property
  let value ← readText "value" d.value
  let severity ← readSeverity d.severity
  let category ← readCategory d.category
  let suggestion ← readSuggestion d.suggestion
  return { subject, severity, line, selector, property, value, suggestion, category }

end Draft

/-- What someone hands in for a diagram. -/
inductive Submission where
  | loose (given : Datum)
  | draft (given : Draft)
deriving Repr

/-- The request of a submission, or the first thing that is wrong with it. -/
def Submission.request : Submission → Except RequestError Request
  | loose (.fields entries) => (Draft.ofFields entries).request
  | loose given => .error (.refused (.notFields given))
  | draft given => given.request

end Reflow
