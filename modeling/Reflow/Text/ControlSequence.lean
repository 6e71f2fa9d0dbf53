import Reflow.Text.Search

/-!
# Control sequences

A terminal takes an escape character, a bracket, parameters and a letter for an instruction. Output
that goes to no terminal is written without such sequences. What is left is not searched again, so
the parts around a sequence may form a new one.
-/

namespace Reflow.Text

/-- Whether `c` may stand between the bracket and the letter of a control sequence. -/
def isParameter (c : Char) : Bool := c == ';' || c == '?' || c.isDigit

/-- What follows the control sequence at the front of `s`. -/
def afterControl? (s : List Char) : Option (List Char) := do
  let parameters ← afterLead? ['\x1b', '['] s
  let tail := parameters.dropWhile isParameter
  guard (tail.head?.any Char.isAlpha)
  return tail.drop 1

/-- A control sequence. -/
def controlSequence : Pattern := fun _ s => (afterControl? s).map fun rest => s.length - rest.length

/-- The text without its control sequences. -/
def withoutControls (s : String) : String :=
  String.ofList <| (controlSequence.pieces s.toList).filterMap fun
    | .plain c => some c
    | .hit _ => none

end Reflow.Text
