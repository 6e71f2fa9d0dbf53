import Reflow.Severity
import Reflow.Text.Columns

/-!
# The palette of diagrams

Diagrams are drawn with ASCII and the characters named here.

* `Severity.mark` is the glyph of a severity; a text that names none has the mildest one.
* `isPaletteText` holds of the texts that a diagram may show without leaving the palette.
-/

namespace Reflow

namespace Palette

/-- The filling of an element. -/
def solid : Char := '█'

/-- The filling of what spills over. -/
def medium : Char := '▓'

/-- The filling of space around an element. -/
def light : Char := '░'

/-- The horizontal border. -/
def horizontal : Char := '─'

/-- The vertical border. -/
def vertical : Char := '│'

/-- The upper left corner. -/
def topLeft : Char := '┌'

/-- The upper right corner. -/
def topRight : Char := '┐'

/-- The lower left corner. -/
def bottomLeft : Char := '└'

/-- The lower right corner. -/
def bottomRight : Char := '┘'

/-- The mark of an element that goes on to the right. -/
def spill : Char := '►'

/-- The sign between the parts of a heading. -/
def dot : Char := '•'

/-- The mark of a problem. -/
def problem : Char := '✖'

/-- The mark of a warning. -/
def warning : Char := '⚠'

/-- The mark of a remark. -/
def remark : Char := 'ⓘ'

/-- The mark of a solution. -/
def solution : Char := '✓'

/-- The sign between a problem and its solution. -/
def arrow : Char := '→'

/-- The characters outside ASCII that belong to the palette. -/
def all : List Char := [
  solid, medium, light, horizontal, vertical, topLeft, topRight, bottomLeft, bottomRight, '▼',
  spill, '◄', Text.ellipsis, dot, problem, warning, remark, solution, arrow]

/-- Whether a character is ASCII or belongs to the palette. -/
def isPaletteChar (c : Char) : Bool := c.toNat < 0x80 || all.contains c

/-- Whether every character of a text is ASCII or belongs to the palette. -/
def isPaletteText (s : String) : Bool := s.toList.all isPaletteChar

end Palette

namespace Severity

/-- The glyph of a severity. -/
def mark : Severity → Char
  | critical => Palette.problem
  | medium => Palette.warning
  | low => Palette.remark

/-- The glyph of the severity that a text names, the one of low severity if it names none. -/
def markOf (text : String) : Char :=
  match parse text with
  | .ok severity => severity.mark
  | .error _ => low.mark

end Severity

end Reflow
