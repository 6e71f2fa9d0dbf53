import Reflow.Diagram.Drawing
import Reflow.Diagram.Request

/-!
# Diagrams

A diagram is a box of sixty columns and at most twenty rows: a heading, the two drawings side by
side, and the faulty declaration with the suggested fix.

* `Diagram.compose` puts a diagram together from a title, a request and its drawings. The line
  number comes as a text, since it may have too many digits to be written.
* `Diagram.notice` is the box that shows a message in place of a diagram.
* `Diagram.unavailable` is the line for a subject that nobody draws.
-/

namespace Reflow

/-- A text with the columns and rows it takes, and the milliseconds it took to make. -/
structure Diagram where
  text : String
  width : Nat
  height : Nat
  milliseconds : Binary64
deriving DecidableEq, Repr

namespace Diagram

open Palette Text Border

/-! ## Measures -/

/-- The most columns of a diagram. -/
def maxWidth : Nat := 60

/-- The most rows of a diagram. -/
def maxHeight : Nat := 20

/-- The columns between the borders. -/
def innerWidth : Nat := 58

/-- The columns of either drawing. -/
def columnWidth : Nat := 29

/-- The most rows of a drawing that are shown. -/
def maxDrawingRows : Nat := 13

/-- The suggestion if none is given. -/
def standardSuggestion : String := "Use responsive units"

/-- A text of several rows with the columns of the widest one. -/
def ofRows (rows : List String) : Diagram where
  text := "\n".intercalate rows
  width := (rows.map columns).foldl max 0
  height := rows.length
  milliseconds := .ofNat 0

/-! ## Parts -/

/-- The text of the heading. The title gives way to the severity and the line number, and both of
them to the line number if there is no room for a title. -/
def heading (title number : String) (r : Request) : String :=
  let lineText := "L" ++ number
  let suffix := " " ++ char dot ++ " " ++ char r.severity.mark ++ " " ++ char dot ++ " " ++ lineText
  let room : Int := innerWidth - 1 - columns suffix
  if 2 ≤ room then " " ++ truncate (String.ofList (upper title.toList)) room ++ suffix
  else truncate (" " ++ lineText) innerWidth

/-- The rows above the drawings. -/
def header (title number : String) (r : Request) : List String :=
  [top innerWidth, row (heading title number r) innerWidth, rule innerWidth]

/-- A row of two columns. -/
def splitRow (left right : String) : String :=
  between (pad .left left columnWidth ++ pad .left right columnWidth)

/-- The row above the drawings that names them. -/
def labelRow : String :=
  between (pad .left "  BEFORE" (columnWidth - 1) ++ char arrow ++ pad .left " AFTER" columnWidth)

/-- The drawings side by side. -/
def comparison (d : Drawing) : List String :=
  let count := min (max d.before.length d.after.length) maxDrawingRows
  labelRow :: (List.range count).map fun i =>
    splitRow ("  " ++ d.before.getD i "") (" " ++ d.after.getD i "")

/-- The faulty declaration and the suggested fix: in one row if both fit in their columns, else
each in its own. -/
def measurements (r : Request) : List String :=
  let suggestion := if r.suggestion.isEmpty then standardSuggestion else r.suggestion
  let problem := char problem ++ " " ++ r.property ++ ": " ++ r.value
  let solution := char solution ++ " " ++ suggestion
  if columns ("  " ++ problem) ≤ columnWidth ∧ columns (" " ++ solution) ≤ columnWidth then
    [splitRow ("  " ++ problem) (" " ++ solution)]
  else [row (" " ++ problem) innerWidth, row (" " ++ solution) innerWidth]

/-- The rows within the size of a diagram. Long rows are shortened; of too many rows the last one
and those in front are kept. -/
def clamp (rows : List String) : List String :=
  let fitting := rows.map fun line =>
    if maxWidth < columns line then pad .left line maxWidth else line
  if maxHeight < fitting.length then
    fitting.take (maxHeight - 1) ++ fitting.drop (fitting.length - 1)
  else fitting

/-! ## Diagrams -/

/-- The diagram of a request with its two drawings, under a title and a line number. -/
def compose (title number : String) (r : Request) (d : Drawing) : Diagram :=
  ofRows (clamp (header title number r ++ comparison d ++ measurements r ++ [bottom innerWidth]))

/-- The rows that a message may take. -/
def maxMessageRows : Nat := 4

/-- The message in rows, the last of them shortened if there are too many. -/
def messageRows (message : String) : List String :=
  let width := innerWidth - 2
  let rows := (wrap width message.toList).map String.ofList
  if rows.isEmpty then [""]
  else if maxMessageRows < rows.length then
    rows.take (maxMessageRows - 1)
      ++ [truncate (" ".intercalate (rows.drop (maxMessageRows - 1))) width]
  else rows

/-- The box that shows a message in place of a diagram. -/
def notice (message : String) : Diagram :=
  { ofRows ([top innerWidth,
      row (" " ++ char warning ++ " Visualization Error") innerWidth,
      rule innerWidth]
    ++ (messageRows message).map (fun line => row (" " ++ line) innerWidth)
    ++ [bottom innerWidth]) with width := maxWidth }

/-- The line for a subject that nobody draws. -/
def unavailable (subject : String) : Diagram :=
  let text := truncate ("[" ++ subject ++ "] visualization not available") maxWidth
  ⟨text, columns text, 1, .ofNat 0⟩

end Diagram

end Reflow
