import Reflow.Diagram.Palette
import Reflow.Text.Columns

/-!
# Borders

Boxes of a given inner width: a top border, rows between vertical borders and a bottom border.
-/

namespace Reflow.Border

open Palette Text

/-- A text of one character. -/
def char (c : Char) : String := String.ofList [c]

/-- The top border. -/
def top (width : Int) : String := char topLeft ++ fill width.toNat horizontal ++ char topRight

/-- The bottom border. -/
def bottom (width : Int) : String :=
  char bottomLeft ++ fill width.toNat horizontal ++ char bottomRight

/-- What stands between two vertical borders. -/
def between (content : String) : String := char vertical ++ content ++ char vertical

/-- A row of the box, filled up or shortened to its width. -/
def row (content : String) (width : Int) : String := between (pad .left content width)

/-- A line across the box. -/
def rule (width : Int) : String := between (fill width.toNat horizontal)

/-- The rows in a box. -/
def framed (rows : List String) (width : Int) : List String :=
  top width :: rows.map (row · width) ++ [bottom width]

end Reflow.Border
