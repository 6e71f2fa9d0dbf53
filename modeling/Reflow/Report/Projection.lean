import Reflow.Diagram.Request
import Reflow.Diagram.Subject
import Reflow.Finding

/-!
# From findings to diagram requests

Every kind of finding but one has a subject. What a finding leaves open is filled in.
-/

namespace Reflow

/-- The subject of the diagrams for a kind. -/
def Kind.subject? : Kind → Option Subject
  | fixedWidth | fixedHeight | fixedBoxDimensions | fixedMinDimension => some .fixedDimensions
  | viewportWidthOverflow => some .viewportOverflow
  | horizontalOverflowRisk | cumulativeHorizontalOverflow => some .overflowHorizontal
  | nowrapFixedWidth => some .nowrapFixed
  | nonWrappingFlexBasis | flexWithoutWrap | rigidFlexItem => some .flexFragility
  | rigidGridTracks => some .gridRigidity
  | fixedPixelSpacing => some .fixedSpacing
  | mediaQueryInstability => some .mediaInstability
  | bodyOverflowMasking => some .overflowMasking
  | widthExceedsBreakpoint => some .breakpointExceeded
  | absoluteRigidity => some .absoluteRigidity
  | mixedBoxSizing => some .boxInconsistency
  | importantLayout | other _ => none

/-- A text that is given, or the standard one. -/
def givenOr (standard : String) (text : String) : String := if text.isEmpty then standard else text

/-- The request for a diagram of a finding, if its kind has a subject. -/
def Finding.request? (f : Finding) : Option Request :=
  f.kind.subject?.map fun subject =>
    { subject := subject.name
      severity := f.severity
      line := f.line.getD 0
      selector := givenOr "element" f.selector
      property := givenOr "width" (f.property.getD "")
      value := givenOr "600px" (f.value.getD "")
      suggestion := givenOr "Use responsive units" f.wording.suggestion
      category := .ofSubject subject.name }

end Reflow
