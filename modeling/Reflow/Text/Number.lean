import Reflow.Binary64
import Reflow.Text.Blank
import Reflow.Text.Case
import Reflow.Text.Integer

/-!
# Numbers as arguments

A number may have blanks around it, a sign, digits of any script, and an underscore between two
digits. A double may also have a point, an exponent, or be infinite or undefined.

* `readInteger?` and `readDouble?` read a whole text.
-/

namespace Reflow.Text

/-- Whether `c` is an ASCII blank. -/
def isAsciiBlank (c : Char) : Bool := c == ' ' || (9 ≤ c.toNat && c.toNat ≤ 13)

/-- The ASCII character that stands for `c` in a number. -/
def asciiForm? (c : Char) : Option Char :=
  if c.toNat < 0x7F then some c
  else if isBlank c then some ' '
  else (digitValue? c).map fun d => Char.ofNat ('0'.toNat + d)

/-- The text without ASCII blanks at its ends. -/
def trimAscii (s : List Char) : List Char :=
  ((s.dropWhile isAsciiBlank).reverse.dropWhile isAsciiBlank).reverse

/-- The text without underscores, each of which must stand between two digits. -/
def dropUnderscores? (before : Option Char) : List Char → Option (List Char)
  | [] => some []
  | '_' :: rest =>
    if before.any Char.isDigit && rest.head?.any Char.isDigit then dropUnderscores? (some '_') rest
    else none
  | c :: rest => (dropUnderscores? (some c) rest).map (c :: ·)

/-- The ASCII text of a number without the blanks around it and the underscores. -/
def plainNumber? (s : String) : Option (List Char) := do
  dropUnderscores? none (trimAscii (← s.toList.mapM asciiForm?))

/-- Whether the text has a minus sign, and the text after the sign if there is one. -/
def takeSign : List Char → Bool × List Char
  | '-' :: rest => (true, rest)
  | '+' :: rest => (false, rest)
  | s => (false, s)

/-- The number of ASCII digits, of which there must be one. -/
def wholeNumber? (s : List Char) : Option Nat :=
  if s.isEmpty || !s.all Char.isDigit then none else some (numeral s)

/-- The integer that a text writes, in no more digits than are read. -/
def readInteger? (s : String) : Option Int := do
  let (negative, digits) := takeSign (← plainNumber? s)
  let n ← wholeNumber? digits
  guard (digits.length ≤ digitLimit)
  return if negative then -n else n

/-- The exponent that a text writes, zero if it is empty. -/
def readExponent? : List Char → Option Int
  | [] => some 0
  | mark :: rest => do
    guard (mark = 'e' ∨ mark = 'E')
    let (negative, digits) := takeSign rest
    let n ← wholeNumber? digits
    return if negative then -n else n

/-- The double of a decimal text without a sign. -/
def readDecimal? (negative : Bool) (s : List Char) : Option Binary64 := do
  let whole := s.takeWhile Char.isDigit
  let rest := s.dropWhile Char.isDigit
  let afterPoint := match rest with
    | '.' :: tail => tail
    | _ => []
  let fraction := afterPoint.takeWhile Char.isDigit
  guard (!(whole ++ fraction).isEmpty)
  let exponent ← readExponent? (if rest.head? = some '.' then afterPoint.dropWhile Char.isDigit
    else rest)
  return .ofDecimal negative (numeral (whole ++ fraction)) (exponent - fraction.length)

/-- The double that a text writes. -/
def readDouble? (s : String) : Option Binary64 := do
  let (negative, magnitude) := takeSign (← plainNumber? s)
  match String.ofList (magnitude.map Char.toLower) with
  | "inf" | "infinity" => return .infinite negative
  | "nan" => return .nan
  | _ => readDecimal? negative magnitude

end Reflow.Text
