import Reflow.Position
import Reflow.Settings

/-!
# Scanning line by line

Dialects that are indented or full of mixins are not read as rules. Each of their lines is searched
for a pixel width and a pixel height, and the findings have their places at once.
-/

namespace Reflow.LineScan

open Text

/-- A property name with a colon, then a number of pixels, up to letter case. -/
def declarationPattern (property : String) : Pattern :=
  Length.patternOf fun _ s => do
    let value ← Length.afterWord? (property ++ ":") s
    return (← Length.readPixels? (trimLeft value)).2

/-- The number of pixels in a match of `declarationPattern`. -/
def declaredPixels? (property : String) (text : List Char) : Option Binary64 := do
  let value ← Length.afterWord? (property ++ ":") text
  return (← Length.readPixels? (trimLeft value)).1.toBinary64

/-- The properties that are looked for. -/
def measures : List (String × Kind × Measure) :=
  [("width", .fixedWidth, .width), ("height", .fixedHeight, .height)]

/-- The finding about one property in the line of the given index. -/
def finding? (s : Settings) (index : Nat) (line : List Char) (property : String) (kind : Kind)
    (measure : Measure) : Option Finding := do
  let extent ← (declarationPattern property).first? line
  let text := extent.cut line
  guard (s.reports measure (declaredPixels? property text))
  let unit ← Length.pixelUnit.first? text
  let start := extent.start + unit.start
  return (Finding.about kind "" property (String.ofList text)).placedAt (index + 1)
    (Position.lineSpan index start (start + unit.length))

/-- The findings in the lines of a source text. -/
def scan (s : Settings) (source : String) : List Finding :=
  (lines source.toList).zipIdx.flatMap fun (line, index) =>
    measures.filterMap fun (property, kind, measure) => finding? s index line property kind measure

end Reflow.LineScan
