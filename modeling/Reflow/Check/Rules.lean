import Reflow.Finding
import Reflow.Settings
import Reflow.Stylesheet

/-!
# Checks of single rules

Each check looks at one rule and lists its findings. The first fixed value of a list of properties
stands for all of them, so that a rule has at most one finding of a kind.

* `fixedDimensions`: pixel widths and heights, both together, and pixel minimums.
* `horizontalOverflow`: what overflows beside a pixel width.
* `maskedBody`, `viewportWidth`, `absoluteOffsets`: one declaration at fault.
* `fragileFlex`, `rigidGrid`: containers whose items cannot adapt.
* `declarationHabits`: the importance flag on layout, pixel spacing.
* `exceededBreakpoint`: a width over the media query it stands in, if the two can be compared.
-/

namespace Reflow

/-- Why numbers of pixels cannot be compared: one is infinite and has no integer part, or one has
too many digits to be read. -/
inductive PixelError where
  | infiniteWidth
  | digits (cause : Text.DigitError)
deriving DecidableEq, Repr

/-- The message for numbers that cannot be compared. -/
def PixelError.message : PixelError → String
  | infiniteWidth => "cannot convert float infinity to integer"
  | digits cause => cause.message

namespace Rule

/-- The value of a property if it is a fixed number of pixels. -/
def fixed? (r : Rule) (property : String) : Option String :=
  (r.value? property).filter Length.isFixed

/-- The first of the properties that has a fixed value, with the value. -/
def firstFixed? (r : Rule) (properties : List String) : Option (String × String) :=
  properties.findSome? fun p => (r.fixed? p).map (p, ·)

/-- The value of a property if it mentions a word, up to letter case. -/
def mentioning? (r : Rule) (property word : String) : Option String :=
  (r.value? property).filter fun v => Text.mentions word (Text.lower v.toList)

/-- A finding about one declaration of the rule. -/
def finding (r : Rule) (kind : Kind) (property value : String) : Finding :=
  .about kind r.selector property value

/-! ## Dimensions -/

/-- Pixel widths and heights, the two together, and pixel minimums. The two together are reported
whatever their size. -/
def fixedDimensions (s : Settings) (r : Rule) : List Finding :=
  let width := r.fixed? "width"
  let height := r.fixed? "height"
  let minimum := r.firstFixed? ["min-width", "min-height"]
  ((width.filter (s.reportsValue .width)).map (r.finding .fixedWidth "width")).toList
    ++ ((height.filter (s.reportsValue .height)).map (r.finding .fixedHeight "height")).toList
    ++ (if height.isSome then (width.map (r.finding .fixedBoxDimensions "width")).toList else [])
    ++ (minimum.map fun (p, v) => r.finding .fixedMinDimension p v).toList

/-! ## Overflow -/

/-- The properties beside a box. -/
def sideProperties : List String := ["margin-left", "margin-right", "padding-left", "padding-right"]

/-- Visible overflow, stacked pixel spacing or unwrapped text beside a pixel width. -/
def horizontalOverflow (r : Rule) : List Finding :=
  let culprit := r.firstFixed? ["width", "min-width"]
  let of (kind : Kind) := (culprit.map fun (p, v) => r.finding kind p v).toList
  (if (r.mentioning? "overflow-x" "visible").isSome then of .horizontalOverflowRisk else [])
    ++ (if 2 ≤ (sideProperties.filter fun p => (r.fixed? p).isSome).length then
        ((r.fixed? "width").map (r.finding .cumulativeHorizontalOverflow "width")).toList
      else [])
    ++ (if (r.mentioning? "white-space" "nowrap").isSome then of .nowrapFixedWidth else [])

/-- Hidden overflow on the body. -/
def maskedBody (r : Rule) : List Finding :=
  if Text.lower (Text.trim r.selector.toList) = "body".toList then
    ((r.mentioning? "overflow-x" "hidden").map
      (r.finding .bodyOverflowMasking "overflow-x")).toList
  else []

/-- A width of the whole viewport, which has the scroll bar in it. -/
def viewportWidth (r : Rule) : List Finding :=
  (((r.value? "width").filter Length.spansViewport).map
    (r.finding .viewportWidthOverflow "width")).toList

/-! ## Flex and grid -/

/-- The fixed basis of an item, by its own property or in the shorthand, and its pixel number. -/
def fixedBasis? (r : Rule) : Option (String × String × Option Binary64) :=
  match r.fixed? "flex-basis" with
  | some basis => some ("flex-basis", basis, Length.pixels? basis)
  | none => do
    let shorthand ← r.value? "flex"
    return ("flex", shorthand, some (← Length.rigidBasis? shorthand))

/-- Fixed bases that do not wrap, containers without a word on wrapping, and rigid items. -/
def fragileFlex (s : Settings) (r : Rule) : List Finding :=
  match r.mentioning? "display" "flex" with
  | none => []
  | some display =>
    let unwrapped := do
      let _ ← r.mentioning? "flex-wrap" "nowrap"
      let (property, value, pixels) ← fixedBasis? r
      guard (s.reports .flexBasis pixels)
      return r.finding .nonWrappingFlexBasis property value
    let rigid := do
      guard (r.value? "flex-grow" = some "0" ∧ r.value? "flex-shrink" = some "0")
      let basis ← (r.fixed? "flex-basis").filter (s.reportsValue .flexBasis)
      return r.finding .rigidFlexItem "flex-basis" basis
    unwrapped.toList
      ++ (if r.value? "flex-wrap" = none then [r.finding .flexWithoutWrap "display" display]
        else [])
      ++ rigid.toList

/-- The properties that size the tracks of a grid. -/
def trackProperties : List String :=
  ["grid-template-columns", "grid-template-rows", "grid-auto-columns"]

/-- Whether a pixel number among the tracks of a grid is worth a finding. -/
def reportsTracks (s : Settings) (r : Rule) : Bool :=
  match s.mode with
  | .strict => true
  | .pragmatic =>
    (trackProperties.filterMap r.value?).any fun v =>
      (Length.allPixels v).any fun x => s.reports .gridTrack (some x)

/-- Grid tracks in pixels. -/
def rigidGrid (s : Settings) (r : Rule) : List Finding :=
  if (r.mentioning? "display" "grid").isSome && reportsTracks s r then
    ((r.firstFixed? trackProperties).map fun (p, v) => r.finding .rigidGridTracks p v).toList
  else []

/-! ## Positions and habits -/

/-- The properties that pin an element. -/
def offsetProperties : List String := ["left", "right", "top", "bottom", "width"]

/-- Absolutely positioned elements pinned by pixels. -/
def absoluteOffsets (r : Rule) : List Finding :=
  if (r.mentioning? "position" "absolute").isSome then
    ((r.firstFixed? offsetProperties).map fun (p, v) => r.finding .absoluteRigidity p v).toList
  else []

/-- The words that the names of layout properties start with. -/
def layoutWords : List String :=
  ["width", "height", "margin", "padding", "left", "right", "top", "bottom", "flex", "grid"]

/-- Whether a name starts like a layout property, up to letter case. -/
def isLayoutProperty (property : String) : Bool :=
  layoutWords.any fun word => (Length.afterWord? word property.toList).isSome

/-- Whether a name is that of a spacing property, up to letter case. A line feed may end it. -/
def isSpacingProperty (property : String) : Bool :=
  ["margin", "padding", "gap"].any fun word =>
    match Length.afterWord? word property.toList with
    | some rest => rest = [] ∨ rest = ['\n']
    | none => false

/-- The importance flag, up to letter case. -/
def importantFlag : Text.Pattern := Length.patternOf fun _ s => Length.afterWord? "!important" s

/-- The importance flag on layout properties, and pixel spacing. -/
def declarationHabits (s : Settings) (r : Rule) : List Finding :=
  r.declarations.flatMap fun (property, value) =>
    (if importantFlag.occursIn value.toList && isLayoutProperty property then
        [r.finding .importantLayout property value]
      else [])
      ++ if isSpacingProperty property && Length.isFixed value && s.reportsValue .spacing value then
        [r.finding .fixedPixelSpacing property value]
      else []

/-! ## Breakpoints -/

/-- The first whole number of pixels in the condition around the rule. -/
def breakpoint? (r : Rule) : Except PixelError (Option Nat) :=
  match r.mediaCondition? with
  | none => .ok none
  | some condition => (Length.wholePixels? condition).mapError .digits

/-- A width over the first whole number of pixels in the condition around the rule. That number is
read first, whatever the width is. -/
def exceededBreakpoint (r : Rule) : Except PixelError (List Finding) := do
  let width := r.value? "width"
  match ← r.breakpoint?, width, width.bind Length.pixels? with
  | some breakpoint, some value, some pixels =>
    match pixels.truncate? with
    | none => throw .infiniteWidth
    | some whole =>
      return if (breakpoint : Int) < whole then [r.finding .widthExceedsBreakpoint "width" value]
        else []
  | _, _, _ => return []

end Rule

end Reflow
