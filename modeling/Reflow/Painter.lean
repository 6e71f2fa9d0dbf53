import Reflow.Cache
import Reflow.Diagram

/-!
# Painters

A painter makes the two drawings of a diagram, and may fail at it. A painter that keeps its drawings
looks in the shared cache first.

* `Painter.ofSubject`: the painter of a subject, whose drawings never fail.
* `Painter.present`: a drawing in its frame. It fails if the line number cannot be written.
* `Painter.paint`: the diagram of a request.
-/

namespace Reflow

/-- What went wrong in someone's work: the name of the failure, and a text that may be empty. -/
structure Fault where
  label : String
  text : String
deriving DecidableEq, Repr

/-- The text of a failure, its name if it has none. -/
def Fault.message (f : Fault) : String := if f.text.isEmpty then f.label else f.text

/-- The failure to read or write an integer. -/
def Fault.ofDigits (cause : Text.DigitError) : Fault := ⟨"ValueError", cause.message⟩

/-- Someone who makes the drawings of a request. -/
structure Painter where
  title : String
  before : Request → Except Fault (List String)
  after : Request → Except Fault (List String)
  keepsDrawings : Bool

/-- The key of a request in the cache: its subject, severity and value. -/
def Request.cacheKey (r : Request) : String :=
  r.subject ++ ":" ++ r.severity.name ++ ":" ++ r.value

namespace Painter

/-- The painter of a subject. -/
def ofSubject (s : Subject) (keepsDrawings : Bool) : Painter where
  title := s.title
  before r := .ok (s.before r.value)
  after r := .ok (s.after r.value)
  keepsDrawings := keepsDrawings

/-- The drawings of a request, the one of the problem first. -/
def draw (p : Painter) (r : Request) : Except Fault Drawing := do
  let before ← p.before r
  let after ← p.after r
  return ⟨before, after⟩

/-- The drawings of a request, from the cache if the painter keeps them there. -/
def drawingFor (p : Painter) (cache : Cache Drawing) (r : Request) :
    Except Fault (Option Drawing) × Cache Drawing :=
  if p.keepsDrawings then cache.getOrCreate r.cacheKey fun _ => (p.draw r).map some
  else ((p.draw r).map some, cache)

/-- The diagram of a request with a drawing, if its line number can be written. -/
def present (p : Painter) (r : Request) (d : Drawing) : Except Fault Diagram :=
  match Text.writeInteger r.line with
  | .ok number => .ok (.compose p.title number r d)
  | .error cause => .error (.ofDigits cause)

/-- The diagram of a request. The cache has the drawing, also if there is no diagram. -/
def paint (p : Painter) (cache : Cache Drawing) (r : Request) :
    Except Fault Diagram × Cache Drawing :=
  let (drawing, cache) := p.drawingFor cache r
  (drawing.bind fun d => p.present r (d.getD ⟨[], []⟩), cache)

end Painter

end Reflow
