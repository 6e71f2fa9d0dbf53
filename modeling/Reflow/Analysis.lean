import Reflow.Check
import Reflow.Journal
import Reflow.LineScan
import Reflow.Stylesheet.Reader

/-!
# Analysis of a source text

`css` and `scss` are read as stylesheets, checked and placed; `less` and `sass` are scanned line by
line. The findings are cut off at the number that the settings allow.
-/

namespace Reflow

/-- A dialect of stylesheets. -/
inductive Language where
  | css
  | less
  | sass
  | scss
deriving DecidableEq, Repr

namespace Language

/-- The dialects by name. -/
def all : List Language := [.css, .less, .sass, .scss]

/-- The name of a dialect. -/
def name : Language → String
  | css => "css"
  | less => "less"
  | sass => "sass"
  | scss => "scss"

/-- The dialect of that name. -/
def ofName? (name : String) : Option Language := all.find? (·.name = name)

/-- The dialect that a text names, up to letter case and surrounding blanks. -/
def parse? (text : String) : Option Language :=
  ofName? (String.ofList (Text.lower (Text.trim text.toList)))

/-- Whether the dialect is read as rules and not line by line. -/
def isStructural : Language → Bool
  | css | scss => true
  | less | sass => false

end Language

namespace Analysis

/-- Why an analysis gives no result. -/
inductive Error where
  | unsupportedLanguage (given : String)
  | pixels (cause : PixelError)
deriving DecidableEq, Repr

/-- The message of an error. -/
def Error.message : Error → String
  | unsupportedLanguage given => "Unsupported language variant: " ++ Text.quoted given
  | pixels cause => cause.message

/-- The findings of an analysis and the journal of the run. -/
structure Result where
  findings : List Finding
  journal : List Journal.Entry
deriving DecidableEq, Repr

/-- A note of the engine. -/
def note (text : String) : Journal.Entry := ⟨.debug, .engine, text⟩

/-- The notes on a stylesheet and what each check has found in it. -/
def detectionNotes (sheet : Stylesheet) (found : List (Check × List Finding)) :
    List Journal.Entry :=
  note ("Parsed " ++ toString sheet.rules.length ++ " rule(s), "
      ++ toString sheet.mediaConditions.length ++ " media condition(s)")
    :: (found.filter fun (_, findings) => !findings.isEmpty).map fun (check, findings) =>
      note ("detect_" ++ check.name ++ ": " ++ toString findings.length ++ " issue(s)")

/-- The findings before any are cut off, and the notes on how they were found. -/
def findAll (source : String) (language : Language) (s : Settings) (checks : List Check) :
    Except Error Result :=
  if language.isStructural then
    let sheet := Stylesheet.parse source
    match detect s sheet checks with
    | .ok found => .ok ⟨placeAll (found.flatMap (·.2)) source, detectionNotes sheet found⟩
    | .error cause => .error (.pixels cause)
  else .ok ⟨LineScan.scan s source, []⟩

/-- The note on findings that are cut off. It is left out if the number that the settings allow
cannot be written. -/
def cutNote (count : Nat) (allowed : Int) : List Journal.Entry :=
  match Text.writeInteger allowed with
  | .ok number => [note ("Truncating " ++ toString count ++ " issues to " ++ number)]
  | .error _ => []

/-- The result cut off at the number of findings that the settings allow. -/
def Result.capped (r : Result) (s : Settings) : Result :=
  if s.maxProblems < r.findings.length then
    ⟨r.findings.take s.maxProblems.toNat, r.journal ++ cutNote r.findings.length s.maxProblems⟩
  else r

end Analysis

open Analysis

/-- Analyses a source text in the named dialect. -/
def analyze (source language : String) (s : Settings) (checks : List Check) :
    Except Error Result := do
  match Language.parse? language with
  | none => throw (.unsupportedLanguage language)
  | some dialect =>
    let opening := note ("Analyzing " ++ toString source.length ++ " chars as " ++ dialect.name
      ++ " (mode=" ++ s.mode.name ++ ")")
    let result ← findAll source dialect s checks
    return { result with journal := opening :: result.journal }.capped s

end Reflow
