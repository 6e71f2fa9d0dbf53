import Reflow.Text.CodeRange

/-!
# White space

Blanks are the white space of the Unicode standard together with the four information separators
U+001C to U+001F. The zero-width space and the byte order mark are no blanks.

* `trim` removes the blanks at both ends of a text.
* `words` lists the maximal runs without a blank.
-/

namespace Reflow.Text

/-- The code points of the blanks. -/
def blankRanges : List (Nat × Nat) := [
  (0x9, 0xD), (0x1C, 0x20), (0x85, 0x85), (0xA0, 0xA0), (0x1680, 0x1680), (0x2000, 0x200A),
  (0x2028, 0x2029), (0x202F, 0x202F), (0x205F, 0x205F), (0x3000, 0x3000)]

/-- Whether `c` is white space. -/
def isBlank (c : Char) : Bool := inRanges blankRanges c

/-- The text without the blanks in front. -/
def trimLeft (s : List Char) : List Char := s.dropWhile isBlank

/-- The text without the blanks behind. -/
def trimRight (s : List Char) : List Char := (trimLeft s.reverse).reverse

/-- The text without the blanks at its ends. -/
def trim (s : List Char) : List Char := trimRight (trimLeft s)

theorem length_dropWhile_le (p : Char → Bool) (s : List Char) : (s.dropWhile p).length ≤ s.length :=
  (List.dropWhile_suffix p).length_le

/-- The maximal runs of characters that are no blanks, in order. -/
def words (s : List Char) : List (List Char) :=
  match h : trimLeft s with
  | [] => []
  | c :: rest =>
    have : (rest.dropWhile fun c => !isBlank c).length < s.length := by
      have h₁ := length_dropWhile_le (fun c => !isBlank c) rest
      have h₂ := length_dropWhile_le isBlank s
      rw [show s.dropWhile isBlank = c :: rest from h, List.length_cons] at h₂
      omega
    (c :: rest.takeWhile fun c => !isBlank c) :: words (rest.dropWhile fun c => !isBlank c)
termination_by s.length

end Reflow.Text
