import Reflow.Finding
import Reflow.Length

/-!
# Places of findings

Reading a stylesheet forgets where things stood, so a finding is placed by a search in the lines of
the source. The first line that holds the selector is the anchor; the search goes on to the line
that closes the block, or ten lines further if none does. It looks for the property with a pixel
length behind it, or for any pixel length, and falls back on the whole anchor line.
-/

namespace Reflow

open Text

namespace Position

/-- How many lines a search goes past the anchor if no brace closes the block. -/
def scanLimit : Nat := 10

/-- The first line that holds the selector, or the first line of all. -/
def anchor (lines : List (List Char)) (selector : String) : Nat :=
  if selector.isEmpty then 0
  else (lines.findIdx? (contains selector.toList)).getD 0

/-- The last line to search, for an anchor: the first one with a closing brace. -/
def blockEnd (lines : List (List Char)) (anchor : Nat) : Nat :=
  match (lines.drop anchor).findIdx? (·.contains '}') with
  | some n => anchor + n
  | none => min (lines.length - 1) (anchor + scanLimit)

/-- A property name, up to letter case, that is no part of a longer name, then a colon and, before
the next semicolon, a pixel length. The match goes up to the last such length. -/
def propertyPattern (property : String) : Pattern := fun before s => do
  guard (!before.any fun c => isWord c || c == '-')
  let afterName ← Length.afterWord? property s
  let afterColon ← afterLead? [':'] (trimLeft afterName)
  let fragment := afterColon.takeWhile (· != ';')
  let unit ← Length.pixelWord.lastFrom? (some ':') 0 fragment
  return s.length - afterColon.length + unit.stop

/-- The pattern that places a finding. -/
def patternFor (property : Option String) : Pattern :=
  match property.filter (!·.isEmpty) with
  | some name => propertyPattern name
  | none => Length.pixelWord

/-- The columns of a finding in a line: the first pixel length of the match, or the match. -/
def columnsIn? (pattern : Pattern) (line : List Char) : Option Extent :=
  (pattern.first? line).map fun whole =>
    match Length.pixelWord.first? (whole.cut line) with
    | some unit => ⟨whole.start + unit.start, unit.length⟩
    | none => whole

/-- A stretch of one line, given by its index. -/
def lineSpan (index start stop : Nat) : Span := ⟨index + 1, start, index + 1, stop⟩

/-- The first of the lines from `index` on, `count` of them, where the pattern has columns. -/
def searchFrom (lines : List (List Char)) (pattern : Pattern) (index : Nat) :
    Nat → Option (Nat × Extent)
  | 0 => none
  | count + 1 =>
    match columnsIn? pattern (lines.getD index []) with
    | some extent => some (index, extent)
    | none => searchFrom lines pattern (index + 1) count

end Position

namespace Finding

open Position

/-- The line number and the span of a finding in the lines of the source. -/
def locate (f : Finding) (lines : List (List Char)) : Int × Span :=
  let start := anchor lines f.selector
  match searchFrom lines (patternFor f.property) start (blockEnd lines start + 1 - start) with
  | some (index, e) => (index + 1, lineSpan index e.start e.stop)
  | none => (start + 1, lineSpan start 0 (max 1 (lines.getD start []).length))

/-- The finding with its place in the lines of the source. -/
def place (f : Finding) (lines : List (List Char)) : Finding :=
  let (line, span) := f.locate lines
  f.placedAt line span

end Finding

/-- The findings with their places in the source. -/
def placeAll (findings : List Finding) (source : String) : List Finding :=
  let rows := lines source.toList
  findings.map (·.place rows)

end Reflow
