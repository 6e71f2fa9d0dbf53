import Reflow.Journal
import Reflow.Roster

/-!
# The studio

A studio has a roster of painters, the cache they share, a clock and a journal. It answers every
submission with a diagram, as far as it can: what is wrong with a request or in a painter's work is
shown in the diagram and noted in the journal.

* `Studio.illustrate` answers one submission, `Studio.illustrateAll` a list of them.
-/

namespace Reflow

/-- A clock that goes on by the same step at every reading, starting at zero. -/
structure Clock where
  step : Binary64
  readings : Nat
deriving DecidableEq, Repr

/-- The time in seconds, and the clock after the reading. -/
def Clock.read (c : Clock) : Binary64 × Clock :=
  ((Binary64.ofNat c.readings).mul c.step, { c with readings := c.readings + 1 })

/-- Painters and what they share. -/
structure Studio where
  roster : Roster
  cache : Cache Drawing
  clock : Clock
  journal : List Journal.Entry

/-- Why a submission is not answered: its line is past all doubles, a bad line or its suggestion has
an integer in it that cannot be written, or a painter cannot be had. -/
inductive IllustrationError where
  | lineTooLarge
  | unwritable (cause : Text.DigitError)
  | noPainter (fault : Fault)
deriving DecidableEq, Repr

/-- The message of an error. -/
def IllustrationError.message : IllustrationError → String
  | lineTooLarge => RequestError.lineTooLarge.message
  | unwritable cause => cause.message
  | noPainter fault => fault.text

namespace Studio

/-- A studio with the standard painters, an empty cache of a hundred drawings and a clock that
stands still. -/
def standard : Studio := ⟨.standard, .empty 100, ⟨.ofNat 0, 0⟩, []⟩

/-- Notes an entry down. -/
def note (s : Studio) (level : Journal.Level) (text : String) : Studio :=
  { s with journal := s.journal ++ [⟨level, .visualizer, text⟩] }

/-- Reads the clock. -/
def readClock (s : Studio) : Binary64 × Studio :=
  let (time, clock) := s.clock.read
  (time, { s with clock })

/-- The diagram with the time since the start. -/
def finish (s : Studio) (start : Binary64) (d : Diagram) : Diagram × Studio :=
  let (stop, s) := s.readClock
  ({ d with milliseconds := (stop.sub start).mul (.ofNat 1000) }, s)

/-- The painter of a subject. A new one is noted down. -/
def painterFor (s : Studio) (subject : String) : Except Fault (Option Hire) × Studio :=
  let (found, roster) := s.roster.get subject
  let after := { s with roster }
  if roster.isAtWork subject && !s.roster.isAtWork subject then
    (found, after.note .debug ("instantiated generator for " ++ subject))
  else (found, after)

/-- The milliseconds that a diagram should not exceed. -/
def budget : Binary64 := .ofNat 50

/-- Notes down a diagram that took longer than it should. -/
def noteTime (s : Studio) (subject : String) (d : Diagram) : Studio :=
  if budget.lt d.milliseconds then
    s.note .warning ("diagram for " ++ subject ++ " took " ++ d.milliseconds.toFixed 1
      ++ "ms (budget " ++ budget.toFixed 0 ++ "ms)")
  else s

/-- The diagram by a painter. A failure is noted down and shown. -/
def paint (s : Studio) (start : Binary64) (painter : Painter) (r : Request) : Diagram × Studio :=
  let (painted, cache) := painter.paint s.cache r
  let after := { s with cache }
  match painted with
  | .error fault => (after.note .warning fault.message).finish start (.notice fault.message)
  | .ok diagram =>
    let (timed, after) := after.finish start diagram
    (timed, after.noteTime r.subject timed)

/-- Answers a submission. -/
def illustrate (s : Studio) (given : Submission) : Except IllustrationError Diagram × Studio :=
  let (start, s) := s.readClock
  match given.request with
  | .error .lineTooLarge => (.error .lineTooLarge, s)
  | .error (.unwritable cause) => (.error (.unwritable cause), s)
  | .error (.refused cause) =>
    let noted := s.note .warning ("invalid diagram input: " ++ cause.message)
    let (diagram, s) := noted.finish start (.notice cause.message)
    (.ok diagram, s)
  | .ok request =>
    match s.painterFor request.subject with
    | (.error fault, s) => (.error (.noPainter fault), s)
    | (.ok none, s) =>
      let (diagram, s) := s.finish start (.unavailable request.subject)
      (.ok diagram, s)
    | (.ok (some hire), s) =>
      let (diagram, s) := s.paint start hire.painter request
      (.ok diagram, s)

/-- Answers submissions one after the other, up to the first that gets no answer. -/
def illustrateAll (s : Studio) : List Submission → Except IllustrationError (List Diagram) × Studio
  | [] => (.ok [], s)
  | given :: rest =>
    match s.illustrate given with
    | (.error e, s) => (.error e, s)
    | (.ok diagram, s) =>
      match s.illustrateAll rest with
      | (.error e, s) => (.error e, s)
      | (.ok diagrams, s) => (.ok (diagram :: diagrams), s)

end Studio

end Reflow
