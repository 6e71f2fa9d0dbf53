import Reflow.Text.CodeRange
import Reflow.Text.Digit
import Reflow.Text.WordTable

/-!
# Word characters

A word is a run of letters, numerals and underscores. A word starts after a character that is not
of a word and ends before one.
-/

namespace Reflow.Text

/-- Whether `c` is a letter, a numeral of any kind or an underscore. -/
def isWord (c : Char) : Bool :=
  c == '_' || c.isAlphanum || isDigit c || 0x80 ≤ c.toNat && inRanges wordRanges c

/-- Whether a word may start after `before`, the character in front of it if there is one. -/
def wordStartsAfter (before : Option Char) : Bool := !before.any isWord

/-- Whether a word may end in front of the text `after`. -/
def wordEndsBefore (after : List Char) : Bool := wordStartsAfter after.head?

end Reflow.Text
