import Reflow.Text.Blank
import Reflow.Text.Word

/-!
# Wrapping a message into rows

A message is one paragraph: its tabs become spaces up to the next multiple of eight, its other
line controls become single spaces. It is cut into chunks (runs of spaces, words, the parts of
hyphenated words, dashes between words) and rows take as many chunks as fit. A word longer than a
row is broken, after a hyphen if there is one in reach. Spaces at the ends of rows are dropped,
those in front of the first row kept. Lengths count characters, not columns.

* `chunks` cuts the paragraph; the chunks put together are the paragraph again.
* `wrap` is the list of rows.
-/

namespace Reflow.Text

/-! ## The paragraph -/

/-- The distance between two tab stops. -/
def tabSize : Nat := 8

/-- The text with its tabs as spaces, from the given column on. -/
def expandTabs (column : Nat) : List Char → List Char
  | [] => []
  | '\t' :: s =>
    let room := tabSize - column % tabSize
    List.replicate room ' ' ++ expandTabs (column + room) s
  | c :: s => c :: expandTabs (if c = '\n' ∨ c = '\r' then 0 else column + 1) s

/-- The ASCII characters that a paragraph shows as a space. -/
def isSpacing (c : Char) : Bool :=
  c == ' ' || c == '\t' || c == '\n' || c == '\x0b' || c == '\x0c' || c == '\r'

/-- The message as one paragraph whose only spacing is the space. -/
def paragraph (s : List Char) : List Char :=
  (expandTabs 0 s).map fun c => if isSpacing c then ' ' else c

/-! ## Chunks -/

/-- A letter of a word that a hyphen may divide. -/
def isWordLetter (c : Char) : Bool := isWord c && !isDigit c

/-- A character after which a dash ends a word. -/
def isBeforeDash (c : Char) : Bool :=
  isWord c || ['!', '"', '\'', '&', '.', ',', '?'].contains c

/-- The length of the dash at the front of `s` if a word follows it, else zero. -/
def dashLength (s : List Char) : Nat :=
  let dash := s.takeWhile (· == '-')
  if 2 ≤ dash.length && (s.dropWhile (· == '-')).head?.any isWord then dash.length else 0

/-- Whether a hyphen may divide the word after the letters `before`, read backwards. -/
def dividesAfter : List Char → Bool
  | a :: b :: rest =>
    isWordLetter a && (isWordLetter b || b == '-' && rest.head?.any isWordLetter)
  | _ => false

/-- Whether a hyphen may divide the word before the text `after`. -/
def dividesBefore : List Char → Bool
  | a :: b :: rest =>
    isWordLetter a && (isWordLetter b || b == '-' && rest.head?.any isWordLetter)
  | _ => false

/-- The length of the word at the front of `s`, given the text before it read backwards. The word
has `length` characters so far, at least one is to come. -/
def wordLength (before : List Char) (length : Nat) : List Char → Nat
  | [] => length
  | c :: s =>
    if length = 0 then wordLength (c :: before) 1 s
    else if c = '-' ∧ dividesAfter before ∧ dividesBefore s then length + 1
    else if isSpacing c then length
    else if before.head?.any isBeforeDash && 0 < dashLength (c :: s) then length
    else wordLength (c :: before) (length + 1) s

/-- The length of the chunk at the front of `s`, given the text before it read backwards. -/
def chunkLength (before s : List Char) : Nat :=
  let spaces := s.takeWhile isSpacing
  if !spaces.isEmpty then spaces.length
  else if before.head?.any isBeforeDash && 0 < dashLength s then dashLength s
  else wordLength before 0 s

/-- The chunks of `s`, given the text before it read backwards. -/
def chunksAfter (before s : List Char) : List (List Char) :=
  match s with
  | [] => []
  | c :: rest =>
    let n := chunkLength before (c :: rest) - 1
    (c :: rest.take n) :: chunksAfter ((c :: rest.take n).reverse ++ before) (rest.drop n)
termination_by s.length
decreasing_by simp only [List.length_cons, List.length_drop]; omega

/-- The chunks of a paragraph. -/
def chunks (s : List Char) : List (List Char) := chunksAfter [] s

/-! ## Rows -/

/-- Whether a chunk is blank. -/
def isBlankChunk (chunk : List Char) : Bool := chunk.all isBlank

/-- The chunks that fit in a row of `room` characters, and the chunks left over. -/
def fillRow (room : Nat) : List (List Char) → List (List Char) × List (List Char)
  | [] => ([], [])
  | chunk :: rest =>
    if chunk.length ≤ room then
      let (row, left) := fillRow (room - chunk.length) rest
      (chunk :: row, left)
    else ([], chunk :: rest)

/-- How much of a long word goes into `room` characters: up to and with the last hyphen that
something else precedes, or all of the room. -/
def longWordCut (room : Nat) (word : List Char) : Nat :=
  let inReach := word.take room
  let beforeHyphen := ((inReach.reverse.dropWhile (· != '-')).drop 1).reverse
  if beforeHyphen.any (· != '-') then beforeHyphen.length + 1 else room

/-- The number of characters in a row of chunks. -/
def rowLength (row : List (List Char)) : Nat := row.flatten.length

/-- The row without a blank chunk at its end. -/
def dropLastBlank (row : List (List Char)) : List (List Char) :=
  match row.getLast? with
  | some chunk => if isBlankChunk chunk then row.dropLast else row
  | none => row

/-- The next row of at most `width` characters, and the chunks left over. -/
def nextRow (width : Nat) (chunks : List (List Char)) : List (List Char) × List (List Char) :=
  match fillRow width chunks with
  | (row, word :: left) =>
    if width < word.length then
      let cut := longWordCut (width - rowLength row) word
      (dropLastBlank (row ++ [word.take cut]), word.drop cut :: left)
    else (dropLastBlank row, word :: left)
  | (row, []) => (dropLastBlank row, [])

/-- The rows of the chunks, at most `fuel` of them. A blank chunk in front of a row is dropped if
the row is not the first one. -/
def rowsOf (width : Nat) (first : Bool) : Nat → List (List Char) → List (List Char)
  | 0, _ => []
  | _, [] => []
  | fuel + 1, chunk :: rest =>
    let start := if isBlankChunk chunk && !first then rest else chunk :: rest
    let (row, left) := nextRow width start
    if row.isEmpty then rowsOf width first fuel left
    else row.flatten :: rowsOf width false fuel left

/-- The message in rows of at most `width` characters. -/
def wrap (width : Nat) (s : List Char) : List (List Char) :=
  let cs := chunks (paragraph s)
  rowsOf width true (rowLength cs + cs.length) cs

end Reflow.Text
