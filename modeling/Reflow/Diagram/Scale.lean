import Reflow.Binary64.Checked
import Reflow.Length

/-!
# Lengths to character counts

* `estimate?` turns the first length of a value into pixels, for a viewport of 1920 pixels and a
  container of 1200.
* `clampCount` turns a computed count into one that is safe to draw.
* `Proportions` is an element scaled onto a container of a fixed number of columns.
* `Checked` has the same computations in arithmetic that refuses what has no result.
-/

namespace Reflow.Scale

open Text

/-! ## Pixels of a value -/

/-- A unit that can be estimated in pixels. -/
inductive LengthUnit where
  | pixel
  | viewportPercent
  | containerPercent
deriving DecidableEq, Repr

/-- The unit at the front of a text, and the text after it. -/
def LengthUnit.read? (s : List Char) : Option (LengthUnit × List Char) :=
  ((Length.afterWord? "px" s).map (.pixel, ·)).or
    (((Length.afterWord? "vw" s).map (.viewportPercent, ·)).or
      ((Length.afterWord? "%" s).map (.containerPercent, ·)))

/-- The pixels of a viewport. -/
def viewportPixels : Nat := 1920

/-- The pixels of a container. -/
def containerPixels : Nat := 1200

/-- `number` percent of `whole`: the division comes first. -/
def percent (number : Binary64) (whole : Nat) : Binary64 :=
  (number.div (.ofNat 100)).mul (.ofNat whole)

/-- The pixels of a number of units. -/
def LengthUnit.pixels (number : Binary64) : LengthUnit → Binary64
  | pixel => number
  | viewportPercent => percent number viewportPixels
  | containerPercent => percent number containerPixels

/-- A number and its unit, blanks between them allowed, and the text after them. -/
def readLength? (s : List Char) : Option (Numeral × LengthUnit × List Char) := do
  let (number, rest) ← Numeral.read? s
  let (unit, rest) ← LengthUnit.read? (trimLeft rest)
  return (number, unit, rest)

/-- A number and its unit. -/
def lengthPattern : Pattern := Length.patternOf fun _ s => (readLength? s).map (·.2.2)

/-- The pixels of the first length in a value. -/
def estimate? (value : String) : Option Binary64 := do
  let extent ← lengthPattern.first? value.toList
  let (number, unit, _) ← readLength? (extent.cut value.toList)
  return unit.pixels number.toBinary64

/-- The pixels of the first length in a value, or `standard` if there is none or it is zero. -/
def estimateOr (standard : Nat) (value : String) : Binary64 :=
  ((estimate? value).filter (!·.isZero)).getD (.ofNat standard)

/-! ## Columns -/

/-- The greatest count that a value can ask for. -/
def maxRepeat : Int := 60

/-- A computed count without its fraction, from zero to the limit. -/
def clampCount (count : Binary64) (limit : Int) : Int :=
  match count with
  | .nan => 0
  | .infinite negative => if negative then 0 else limit
  | .finite _ _ => max 0 (min (count.truncate?.getD 0) limit)

/-- The columns of so many pixels, if `maxPixels` of them take `maxColumns`. -/
def columnsOf (pixels : Binary64) (maxColumns : Int) (maxPixels : Binary64) : Int :=
  if maxPixels.le (.ofNat 0) then 0
  else clampCount ((pixels.div maxPixels).mul (.ofInt maxColumns)) maxRepeat

/-- An element scaled onto a container: its columns inside, the columns past the edge and the
columns of one pixel. -/
structure Proportions where
  width : Int
  excess : Int
  scale : Binary64
deriving DecidableEq, Repr

namespace Proportions

/-- Whether the element goes past the edge. -/
def overflows (p : Proportions) : Bool := 0 < p.excess

/-- An element of so many pixels in a container of so many pixels and columns. -/
def of (element container : Binary64) (maxColumns : Int) : Proportions :=
  let scale := if (Binary64.ofNat 0).lt container then (Binary64.ofInt maxColumns).div container
    else .ofNat 0
  let columns := clampCount (element.mul scale) (maxColumns + maxRepeat)
  ⟨min columns maxColumns, max 0 (columns - maxColumns), scale⟩

end Proportions

/-! ## Checked computations -/

namespace Checked

/-- A computed count without its fraction, from zero to the limit. Only a finite count has an
integer part. -/
def clampCount (count : Binary64) (limit : Int) : Except ArithmeticError Int :=
  if count.isFinite then do
    return max 0 (min (← Binary64.Checked.truncate count) limit)
  else return if (Binary64.ofNat 0).lt count then limit else 0

/-- The columns of so many pixels, if `maxPixels` of them take `maxColumns`. -/
def columnsOf (pixels : Binary64) (maxColumns : Int) (maxPixels : Binary64) :
    Except ArithmeticError Int :=
  if maxPixels.le (.ofNat 0) then return 0
  else do
    let share ← Binary64.Checked.div pixels maxPixels
    clampCount (share.mul (← Binary64.Checked.ofInt maxColumns)) maxRepeat

/-- The columns of one pixel of a container, none if the container has no width. -/
def pixelColumns (container : Binary64) (maxColumns : Int) : Except ArithmeticError Binary64 :=
  if (Binary64.ofNat 0).lt container then do
    Binary64.Checked.div (← Binary64.Checked.ofInt maxColumns) container
  else return .ofNat 0

/-- An element of so many pixels in a container of so many pixels and columns. -/
def proportions (element container : Binary64) (maxColumns : Int) :
    Except ArithmeticError Proportions := do
  let scale ← pixelColumns container maxColumns
  let columns ← clampCount (element.mul scale) (maxColumns + maxRepeat)
  return ⟨min columns maxColumns, max 0 (columns - maxColumns), scale⟩

end Checked

end Reflow.Scale
