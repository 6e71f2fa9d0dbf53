import Reflow.Diagram.Border
import Reflow.Diagram.Scale
import Reflow.Diagram.Subject
import Reflow.Text.Wrap

/-!
# Drawings

Each subject is drawn twice: as it is before a fix and as it is after. The drawings depend on the
value of the faulty declaration alone.

* `overflowBar` draws an element in a container, or past its right edge.
* `Subject.before` and `Subject.after` are the two drawings.
-/

namespace Reflow

/-- The rows of the two drawings of a diagram. -/
structure Drawing where
  before : List String
  after : List String
deriving DecidableEq, Repr

namespace Drawing

open Palette Text Border

/-- A caption, and rows in a box under it. -/
def boxed (caption : String) (width : Nat) (rows : List String) : List String :=
  caption :: top width :: rows ++ [bottom width]

/-- A row of one filling between borders. -/
def filled (width : Nat) (filling : Char) : String := between (fill width filling)

/-- A row without a right border, whose content goes on. -/
def spilling (content : String) : String := char vertical ++ content ++ char spill

/-! ## Elements in a container -/

/-- The most columns that are drawn past an edge. -/
def maxSpill : Int := 3

/-- An element of so many pixels in a container of so many pixels and columns. If it does not fit,
it spills over the right border. -/
def overflowBar (element container : Binary64) (columns : Nat) : String :=
  let p := Scale.Proportions.of element container columns
  if p.overflows then
    spilling (fill p.width.toNat solid ++ fill (min p.excess maxSpill).toNat medium)
  else between (fill p.width.toNat solid ++ fill (columns - p.width).toNat ' ')

/-! ## Items in rows -/

/-- The columns of most containers. -/
def container : Nat := 18

/-- The items that fit in a row. -/
def itemsPerRow : Nat := 3

/-- Items of five columns with a space behind each. -/
def itemRow (count : Nat) : String :=
  String.ofList (List.replicate count (List.replicate 5 solid ++ [' '])).flatten

/-- So many items in rows of at most three. -/
def itemRows (total : Nat) : List String :=
  (List.range ((total + itemsPerRow - 1) / itemsPerRow)).map fun i =>
    row (itemRow (min itemsPerRow (total - itemsPerRow * i))) container

/-- The tracks that a grid value names, from four to six. -/
def trackCount (value : String) : Nat := max 4 (min (words value.toList).length 6)

/-! ## Padding and offsets -/

/-- Content in so many columns of padding on either side. -/
def padded (padding width : Nat) : String :=
  fill padding light ++ fill (width - 2 * padding) solid ++ fill padding light

/-- A container with padding all around. -/
def paddedBox (caption : String) (padding : Nat) : List String :=
  let band := filled container light
  let content := between (padded padding container)
  boxed caption container [band, content, content, band]

/-- The padding of so many pixels, at most four columns. -/
def paddingOf (pixels : Binary64) : Nat := (min (Scale.columnsOf pixels 4 (.ofNat 40)) 4).toNat

/-- An element of six columns at an offset in a container. What lies outside is cut off. -/
def offsetRow (offset : Nat) : String :=
  let content := fill offset ' ' ++ fill 6 solid
  if container < content.length then spilling (String.ofList (content.toList.take container))
  else row content container

/-- The text that wraps or does not. -/
def sampleText : String := "Long text content here"

/-- The columns of the sample text's box. -/
def sampleWidth : Nat := 16

end Drawing

namespace Subject

open Palette Text Border Drawing

/-- The drawing of the problem. -/
def before (value : String) : Subject → List String
  | fixedDimensions =>
    let bar := overflowBar (Scale.estimateOr 600 value) (.ofNat 400) 20
    boxed "viewport 400px" 20 [bar, bar]
  | viewportOverflow =>
    boxed "Mobile 375px" 15 [overflowBar (Scale.estimateOr 1920 value) (.ofNat 375) 15]
  | flexFragility =>
    boxed "nowrap, fixed basis" container [spilling (itemRow itemsPerRow ++ fill 2 medium)]
  | gridRigidity =>
    let bar := spilling (itemRow itemsPerRow)
    boxed (toString (trackCount value) ++ " fixed tracks") container [bar, bar]
  | fixedSpacing => paddedBox "same padding, any size" (paddingOf (Scale.estimateOr 40 value))
  | mediaInstability =>
    boxed "Mobile 375px" 18
      [spilling (fill 14 solid ++ fill 2 medium) ++ " breaks", filled 18 light]
  | overflowMasking =>
    boxed "body \x7b" 14
      [filled 14 solid, char vertical ++ fill 14 light ++ char ellipsis ++ " hidden"]
  | breakpointExceeded =>
    boxed "@media (max: 768px)" 12
      [overflowBar ((Scale.estimateOr 900 value).max (.ofNat 832)) (.ofNat 768) 12]
  | absoluteRigidity => boxed "left at fixed px" container [offsetRow 14, offsetRow 14]
  | boxInconsistency =>
    boxed "content-box: 16 cols" 16 [spilling (padded 2 16)]
  | overflowHorizontal =>
    boxed "scrolls sideways" 18
      [overflowBar (Scale.estimateOr 500 value) (.ofNat 375) 18,
        between (fill 9 medium ++ fill 9 light)]
  | nowrapFixed =>
    boxed "single line" sampleWidth
      [spilling (String.ofList (sampleText.toList.take (sampleWidth - 1))
        ++ char ellipsis)]

/-- The drawing of the solution. -/
def after (value : String) : Subject → List String
  | fixedDimensions => boxed "fits any viewport" 20 [filled 20 solid, filled 20 solid]
  | viewportOverflow => boxed "Mobile 375px" 15 [filled 15 solid]
  | flexFragility => boxed "wraps onto new rows" container (itemRows 4)
  | gridRigidity => boxed "auto-fit, minmax()" container (itemRows (trackCount value))
  | fixedSpacing => paddedBox "padding scales down" 2
  | mediaInstability => boxed "Mobile 375px" 18 [filled 18 solid ++ " stable", filled 18 solid]
  | overflowMasking => boxed "body \x7b" 14 [filled 14 solid, filled 14 solid]
  | breakpointExceeded => boxed "max-width: 100%" 16 [filled 16 solid]
  | absoluteRigidity => boxed "relative offset" container [offsetRow 6, offsetRow 6]
  | boxInconsistency => boxed "border-box: 12 cols" 12 [between (padded 2 12)]
  | overflowHorizontal => boxed "no scrollbar" 18 [filled 18 solid]
  | nowrapFixed =>
    boxed "wraps naturally" sampleWidth
      ((wrap sampleWidth sampleText.toList).map fun line =>
        row (String.ofList line) sampleWidth)

end Subject

end Reflow
