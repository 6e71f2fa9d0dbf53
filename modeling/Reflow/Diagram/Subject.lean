/-!
# Subjects of diagrams

There are twelve of them, each with a name in requests and a title in headings.
-/

namespace Reflow

/-- What a diagram is about. -/
inductive Subject where
  | fixedDimensions
  | viewportOverflow
  | flexFragility
  | gridRigidity
  | fixedSpacing
  | mediaInstability
  | overflowMasking
  | breakpointExceeded
  | absoluteRigidity
  | boxInconsistency
  | overflowHorizontal
  | nowrapFixed
deriving DecidableEq, Repr

namespace Subject

/-- The subjects. -/
def all : List Subject := [
  .fixedDimensions, .viewportOverflow, .flexFragility, .gridRigidity, .fixedSpacing,
  .mediaInstability, .overflowMasking, .breakpointExceeded, .absoluteRigidity, .boxInconsistency,
  .overflowHorizontal, .nowrapFixed]

/-- The name of a subject. -/
def name : Subject → String
  | fixedDimensions => "fixed-dimensions"
  | viewportOverflow => "viewport-overflow"
  | flexFragility => "flex-fragility"
  | gridRigidity => "grid-rigidity"
  | fixedSpacing => "fixed-spacing"
  | mediaInstability => "media-instability"
  | overflowMasking => "overflow-masking"
  | breakpointExceeded => "breakpoint-exceeded"
  | absoluteRigidity => "absolute-rigidity"
  | boxInconsistency => "box-inconsistency"
  | overflowHorizontal => "overflow-horizontal"
  | nowrapFixed => "nowrap-fixed"

/-- The title of a subject. -/
def title : Subject → String
  | fixedDimensions => "Fixed Dimensions"
  | viewportOverflow => "Viewport Overflow"
  | flexFragility => "Flex Fragility"
  | gridRigidity => "Grid Rigidity"
  | fixedSpacing => "Fixed Spacing"
  | mediaInstability => "Media Instability"
  | overflowMasking => "Overflow Masking"
  | breakpointExceeded => "Breakpoint Exceeded"
  | absoluteRigidity => "Absolute Rigidity"
  | boxInconsistency => "Box Inconsistency"
  | overflowHorizontal => "Overflow Horizontal"
  | nowrapFixed => "Nowrap Fixed"

/-- The subject of that name. -/
def ofName? (name : String) : Option Subject := all.find? (·.name = name)

end Subject

end Reflow
