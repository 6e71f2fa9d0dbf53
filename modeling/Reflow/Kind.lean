import Reflow.Severity

/-!
# Kinds of findings

A finding is of one of nineteen kinds, each with a label, a severity and standard wording. A label
that is not among them stands for itself, is of low severity and has no wording.
-/

namespace Reflow

/-- The kind of a finding. -/
inductive Kind where
  | fixedWidth
  | fixedHeight
  | fixedBoxDimensions
  | fixedMinDimension
  | mixedBoxSizing
  | horizontalOverflowRisk
  | cumulativeHorizontalOverflow
  | nowrapFixedWidth
  | mediaQueryInstability
  | bodyOverflowMasking
  | viewportWidthOverflow
  | widthExceedsBreakpoint
  | nonWrappingFlexBasis
  | flexWithoutWrap
  | rigidFlexItem
  | rigidGridTracks
  | absoluteRigidity
  | importantLayout
  | fixedPixelSpacing
  | other (text : String)
deriving DecidableEq, Repr

/-- The severity and the texts of a finding. -/
structure Wording where
  severity : Severity
  explanation : String
  impact : String
  suggestion : String
deriving DecidableEq, Repr

namespace Kind

/-- The kinds that have standard wording. -/
def all : List Kind := [
  .fixedWidth, .fixedHeight, .fixedBoxDimensions, .fixedMinDimension, .mixedBoxSizing,
  .horizontalOverflowRisk, .cumulativeHorizontalOverflow, .nowrapFixedWidth,
  .mediaQueryInstability, .bodyOverflowMasking, .viewportWidthOverflow, .widthExceedsBreakpoint,
  .nonWrappingFlexBasis, .flexWithoutWrap, .rigidFlexItem, .rigidGridTracks, .absoluteRigidity,
  .importantLayout, .fixedPixelSpacing]

/-- The label of a kind. -/
def label : Kind → String
  | fixedWidth => "Fixed width"
  | fixedHeight => "Fixed height"
  | fixedBoxDimensions => "Fixed box dimensions"
  | fixedMinDimension => "Fixed minimum dimension"
  | mixedBoxSizing => "Mixed box-sizing"
  | horizontalOverflowRisk => "Horizontal overflow risk"
  | cumulativeHorizontalOverflow => "Cumulative horizontal overflow"
  | nowrapFixedWidth => "No-wrap fixed width"
  | mediaQueryInstability => "Media query instability"
  | bodyOverflowMasking => "Body overflow masking"
  | viewportWidthOverflow => "Viewport width overflow"
  | widthExceedsBreakpoint => "Fixed width exceeds breakpoint"
  | nonWrappingFlexBasis => "Non-wrapping fixed flex basis"
  | flexWithoutWrap => "Flex container without wrap"
  | rigidFlexItem => "Rigid flex item"
  | rigidGridTracks => "Rigid grid tracks"
  | absoluteRigidity => "Absolute positioning rigidity"
  | importantLayout => "Layout property with !important"
  | fixedPixelSpacing => "Fixed pixel spacing"
  | other text => text

/-- The kind of a label. -/
def ofLabel (text : String) : Kind := (all.find? (·.label = text)).getD (.other text)

/-- The standard wording of a kind. -/
def wording : Kind → Wording
  | fixedWidth =>
    ⟨.medium, "Fixed pixel width reduces responsiveness",
      "Constrained layout on smaller viewports",
      "Use relative units or max-width"⟩
  | fixedHeight =>
    ⟨.medium, "Fixed pixel height can cause overflow",
      "Vertical clipping on shorter viewports",
      "Use min-height or auto with constraints"⟩
  | fixedBoxDimensions =>
    ⟨.critical, "Fixed width and height create rigid boxes",
      "Breaks responsive scaling across devices",
      "Prefer fluid dimensions with min/max constraints"⟩
  | fixedMinDimension =>
    ⟨.medium, "Rigid minimum size blocks content reflow",
      "Triggers overflow below threshold viewports",
      "Use percentages or clamp with responsive units"⟩
  | mixedBoxSizing =>
    ⟨.medium, "Mixed box-sizing leads to inconsistent sizing calculations",
      "Inconsistent widths across components",
      "Standardize on border-box for layout consistency"⟩
  | horizontalOverflowRisk =>
    ⟨.medium, "Visible overflow with fixed width can exceed viewport",
      "Horizontal scrollbars on small screens",
      "Set overflow-x hidden or use max-width"⟩
  | cumulativeHorizontalOverflow =>
    ⟨.medium, "Fixed width with fixed paddings can exceed viewport",
      "Content clipped or scrolls horizontally",
      "Use responsive paddings and width constraints"⟩
  | nowrapFixedWidth =>
    ⟨.low, "No wrapping with fixed width increases overflow risk",
      "Text overflows on narrow screens",
      "Allow wrapping or make width responsive"⟩
  | mediaQueryInstability =>
    ⟨.medium, "Property values diverge between base and breakpoints",
      "Layout shifts unpredictably across viewports",
      "Unify values or constrain ranges to avoid divergence"⟩
  | bodyOverflowMasking =>
    ⟨.medium, "Hiding horizontal overflow can mask structural leaks",
      "Content clipped without visible scrollbars",
      "Prefer fixing causes; avoid global overflow-x: hidden"⟩
  | viewportWidthOverflow =>
    ⟨.medium, "100vw includes scrollbar width causing overflow",
      "Horizontal scroll or clipped edges on desktops",
      "Use 100% or calc(100vw - var(scrollbar))"⟩
  | widthExceedsBreakpoint =>
    ⟨.critical, "Width in px inside max-width media exceeds the breakpoint",
      "Guaranteed overflow below breakpoint",
      "Use fluid width or cap with max-width <= breakpoint"⟩
  | nonWrappingFlexBasis =>
    ⟨.critical, "No wrap with fixed basis causes overflow and rigidity",
      "Items overflow container on small screens",
      "Enable wrapping or use responsive flex-basis"⟩
  | flexWithoutWrap =>
    ⟨.medium, "Flex containers default to nowrap, risking overflow",
      "Children overflow on narrow screens",
      "Set flex-wrap: wrap when widths are rigid"⟩
  | rigidFlexItem =>
    ⟨.medium, "No growth or shrink with fixed basis reduces flexibility",
      "Poor reflow under varying viewport widths",
      "Allow shrink or use relative basis"⟩
  | rigidGridTracks =>
    ⟨.medium, "Fixed pixel tracks reduce grid adaptability",
      "Grid fails to reflow on narrow or wide screens",
      "Use fr units or minmax with responsive bounds"⟩
  | absoluteRigidity =>
    ⟨.medium, "Absolute positions with fixed pixels reduce adaptability",
      "Elements misalign under viewport changes",
      "Prefer relative offsets or responsive units"⟩
  | importantLayout =>
    ⟨.low, "Important flags on layout hinder responsive overrides",
      "Difficult to adapt across breakpoints",
      "Remove !important and use specificity or cascade"⟩
  | fixedPixelSpacing =>
    ⟨.low, "Fixed spacing can break scaling",
      "Compressed or expanded layout across devices",
      "Use responsive units or clamp"⟩
  | other _ => ⟨.low, "", "", ""⟩

/-- The wording of an unstable media query whose widths change, not just any property. -/
def mediaWidthWording : Wording :=
  ⟨.medium, "Fixed px width changes across base and media queries",
    "Layout width fluctuates unpredictably",
    "Use fluid widths or harmonize breakpoint widths"⟩

end Kind

end Reflow
