import Reflow.Text.CodeRange

/-!
# Display columns

Pictographs and a few symbols take two columns of a terminal, the emoji variation selector takes
none, every other character takes one.

* `columns` measures a text.
* `truncate` shortens a text to a number of columns and marks the cut by an ellipsis.
* `pad` fills a text up to a number of columns, or shortens it to them.
-/

namespace Reflow.Text

/-- The code points that take two columns. -/
def wideRanges : List (Nat × Nat) := [
  (0x1F300, 0x1F9FF), (0x2600, 0x26FF), (0x2700, 0x27BF), (0x2139, 0x2139), (0x2194, 0x21AA)]

/-- Whether `c` takes two columns. -/
def isWide (c : Char) : Bool := inRanges wideRanges c

/-- The number of columns of a character. -/
def charColumns (c : Char) : Nat :=
  if c = '\uFE0F' then 0 else if isWide c then 2 else 1

/-- The number of columns of a row of characters. -/
def columnsOf : List Char → Nat
  | [] => 0
  | c :: s => charColumns c + columnsOf s

/-- The number of columns of a text. -/
def columns (s : String) : Nat := columnsOf s.toList

/-- The mark of a shortened text. -/
def ellipsis : Char := '…'

/-- The characters from the front of `s` that fit in `budget` columns. -/
def fitting (budget : Nat) : List Char → List Char
  | [] => []
  | c :: s => if charColumns c ≤ budget then c :: fitting (budget - charColumns c) s else []

/-- The text in at most `limit` columns: whole if it fits, else cut and ended by an ellipsis. -/
def truncate (s : String) (limit : Int) : String :=
  if (columns s : Int) ≤ limit then s
  else if limit ≤ 0 then ""
  else String.ofList (fitting (limit - 1).toNat s.toList ++ [ellipsis])

/-- Where the text stands among the spaces that fill it up. -/
inductive Align where
  | left
  | center
  | right
deriving DecidableEq, Repr

/-- `n` copies of a character. -/
def fill (n : Nat) (c : Char) : String := String.ofList (List.replicate n c)

/-- The text in exactly `width` columns, shortened if it is longer. -/
def pad (align : Align) (s : String) (width : Int) : String :=
  let kept := if width ≤ columns s then truncate s width else s
  let room := (width - columns kept).toNat
  match align with
  | .left => kept ++ fill room ' '
  | .center => fill (room / 2) ' ' ++ kept ++ fill (room - room / 2) ' '
  | .right => fill room ' ' ++ kept

end Reflow.Text
