import Reflow.Binary64
import Reflow.Text.Blank
import Reflow.Text.Integer
import Reflow.Text.Search
import Reflow.Text.Word

/-!
# Lengths in property values

A number in a value is a row of decimal digits, with a fraction if a point and another digit
follow. A length is a number with its unit. Taking the fraction is never a choice: what must follow
a number starts with no point, so every pattern here matches at a place in at most one way.

* `isFixed`: whether a value holds a whole number of pixels as a word of its own.
* `pixels?`, `allPixels`: the pixel numbers of a value; `wholePixels?` its first whole number, which
  may have too many digits to be read.
* `rigidBasis?`: the pixel number of a `flex` value that neither grows nor shrinks.
* `spansViewport`: whether a value holds the full viewport width as a word of its own.
* `pixelWord`, `pixelUnit`, `unitWord`: the patterns that highlights and positions use.
-/

namespace Reflow

/-- A number as written: the digits before the point and those after it. -/
structure Numeral where
  whole : List Char
  fraction : List Char
deriving DecidableEq, Repr

namespace Numeral

/-- The number at the front of `s` and the text after it. -/
def read? (s : List Char) : Option (Numeral × List Char) :=
  let whole := s.takeWhile Text.isDigit
  let rest := s.dropWhile Text.isDigit
  if whole.isEmpty then none
  else match rest with
    | '.' :: tail =>
      let fraction := tail.takeWhile Text.isDigit
      if fraction.isEmpty then some (⟨whole, []⟩, rest)
      else some (⟨whole, fraction⟩, tail.dropWhile Text.isDigit)
    | _ => some (⟨whole, []⟩, rest)

/-- The nearest double to the number. -/
def toBinary64 (n : Numeral) : Binary64 :=
  .ofDecimal false (Text.numeral (n.whole ++ n.fraction)) (-(n.fraction.length : Int))

end Numeral

namespace Length

open Text

/-- What follows an ASCII word at the front of `s`, up to letter case. -/
def afterWord? (word : String) (s : List Char) : Option (List Char) :=
  afterLeadCaseless? word.toList s

/-- A pattern from a function that gives the text after a match. -/
def patternOf (after? : Option Char → List Char → Option (List Char)) : Pattern :=
  fun before s => (after? before s).map fun rest => s.length - rest.length

/-! ## Pixel numbers -/

/-- A whole number of pixels that is a word of its own. -/
def fixedPixels : Pattern := patternOf fun before s => do
  guard (wordStartsAfter before && s.head?.any isDigit)
  let rest ← afterWord? "px" (s.dropWhile isDigit)
  guard (wordEndsBefore rest)
  return rest

/-- A number directly followed by `px`, and the text after it. -/
def readPixels? (s : List Char) : Option (Numeral × List Char) := do
  let (number, rest) ← Numeral.read? s
  return (number, ← afterWord? "px" rest)

/-- A number directly followed by `px`. -/
def pixelNumber : Pattern := patternOf fun _ s => (readPixels? s).map (·.2)

/-- A row of digits followed by `px`, blanks between them allowed, and the text after it. -/
def readWholePixels? (s : List Char) : Option (List Char × List Char) := do
  guard (s.head?.any isDigit)
  let rest ← afterWord? "px" (trimLeft (s.dropWhile isDigit))
  return (s.takeWhile isDigit, rest)

/-- A row of digits followed by `px`, blanks between them allowed. -/
def wholePixelNumber : Pattern := patternOf fun _ s => (readWholePixels? s).map (·.2)

/-- Whether a value holds a whole number of pixels as a word of its own. -/
def isFixed (value : String) : Bool := fixedPixels.occursIn value.toList

/-- Whether a value is given and holds a whole number of pixels as a word of its own. -/
def isFixed? (value : Option String) : Bool := value.any isFixed

/-- The pixel numbers of a value, in order. -/
def allPixels (value : String) : List Binary64 :=
  (pixelNumber.hits value.toList).filterMap fun text =>
    (Numeral.read? text).map (·.1.toBinary64)

/-- The first pixel number of a value. -/
def pixels? (value : String) : Option Binary64 := do
  let extent ← pixelNumber.first? value.toList
  return (← Numeral.read? (extent.cut value.toList)).1.toBinary64

/-- The first row of digits in a value that `px` follows, blanks between them allowed. -/
def wholeDigits? (value : String) : Option (List Char) := do
  let extent ← wholePixelNumber.first? value.toList
  return (extent.cut value.toList).takeWhile isDigit

/-- The first whole number in a value that `px` follows, blanks between them allowed. -/
def wholePixels? (value : String) : Except DigitError (Option Nat) :=
  (wholeDigits? value).mapM readDigits

/-! ## Other values -/

/-- Two zeros and a pixel length in a row, each a word of its own, and the length's number. -/
def readRigidBasis? (before : Option Char) (s : List Char) : Option (Numeral × List Char) := do
  guard (wordStartsAfter before)
  let afterGrow ← afterLead? ['0'] s
  guard (afterGrow.head?.any isBlank)
  let afterShrink ← afterLead? ['0'] (trimLeft afterGrow)
  guard (afterShrink.head?.any isBlank)
  let (number, rest) ← readPixels? (trimLeft afterShrink)
  guard (wordEndsBefore rest)
  return (number, rest)

/-- A flex shorthand that neither grows nor shrinks. -/
def rigidBasis : Pattern := patternOf fun before s => (readRigidBasis? before s).map (·.2)

/-- The pixel number of a flex shorthand that neither grows nor shrinks. -/
def rigidBasis? (value : String) : Option Binary64 := do
  let extent ← rigidBasis.first? value.toList
  return (← readRigidBasis? none (extent.cut value.toList)).1.toBinary64

/-- The full viewport width as a word of its own. -/
def viewportWidth : Pattern := patternOf fun before s => do
  guard (wordStartsAfter before)
  let rest ← afterWord? "vw" (← afterLead? ['1', '0', '0'] s)
  guard (wordEndsBefore rest)
  return rest

/-- Whether a value holds the full viewport width as a word of its own. -/
def spansViewport (value : String) : Bool := viewportWidth.occursIn value.toList

/-! ## Patterns for places in a text -/

/-- A number followed by `px`, blanks between them allowed. -/
def pixelUnit : Pattern := patternOf fun _ s => do
  let (_, rest) ← Numeral.read? s
  afterWord? "px" (trimLeft rest)

/-- A number followed by `px`, blanks between them allowed, as words of their own. -/
def pixelWord : Pattern := patternOf fun before s => do
  guard (wordStartsAfter before)
  let (_, rest) ← Numeral.read? s
  let rest ← afterWord? "px" (trimLeft rest)
  guard (wordEndsBefore rest)
  return rest

/-- What follows one of the highlighted units. -/
def afterUnit? (s : List Char) : Option (List Char) :=
  ["px", "rem", "vw"].findSome? fun unit => afterWord? unit s

/-- A number with a unit, blanks between them allowed, or a unit alone, as words of their own. -/
def unitWord : Pattern := patternOf fun before s => do
  guard (wordStartsAfter before)
  let rest ← match Numeral.read? s with
    | some (_, rest) => afterUnit? (trimLeft rest)
    | none => afterUnit? s
  guard (wordEndsBefore rest)
  return rest

end Length

end Reflow
