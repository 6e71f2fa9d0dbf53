import Reflow.Check.Sheets

/-!
# The twelve checks

Each check lists findings of a stylesheet. Checks of single rules pass over the rules whose
selectors are ignored; the two checks that compare rules with each other look at all of them.

* `Check.run` runs one check; only the two that compare numbers of pixels can fail.
* `detect` runs several and keeps apart what each has found.
-/

namespace Reflow

/-- A check for one group of layout risks. -/
inductive Check where
  | fixedDimensions
  | boxModel
  | overflowHorizontal
  | mediaConflicts
  | overflowMaskBody
  | vwWidthRisk
  | breakpointFixedWidth
  | mediaWidthInstability
  | flexFragility
  | gridRigidity
  | absoluteContainment
  | antiPatterns
deriving DecidableEq, Repr

namespace Check

/-- The checks in the order of a full analysis. -/
def all : List Check := [
  .fixedDimensions, .boxModel, .overflowHorizontal, .mediaConflicts, .overflowMaskBody,
  .vwWidthRisk, .breakpointFixedWidth, .mediaWidthInstability, .flexFragility, .gridRigidity,
  .absoluteContainment, .antiPatterns]

/-- The name of a check. -/
def name : Check → String
  | fixedDimensions => "fixed_dimensions"
  | boxModel => "box_model"
  | overflowHorizontal => "overflow_horizontal"
  | mediaConflicts => "media_conflicts"
  | overflowMaskBody => "overflow_mask_body"
  | vwWidthRisk => "vw_width_risk"
  | breakpointFixedWidth => "breakpoint_fixed_width"
  | mediaWidthInstability => "media_width_instability"
  | flexFragility => "flex_fragility"
  | gridRigidity => "grid_rigidity"
  | absoluteContainment => "absolute_containment"
  | antiPatterns => "anti_patterns"

/-- The check of that name. -/
def ofName? (name : String) : Option Check := all.find? (·.name = name)

/-- The rules whose selectors are not ignored. -/
def activeRules (s : Settings) (sheet : Stylesheet) : List Rule :=
  sheet.rules.filter fun r => !s.ignores r.selector

/-- The findings of a check that looks at one rule at a time. -/
def overRules (s : Settings) (sheet : Stylesheet) (f : Rule → List Finding) : List Finding :=
  (activeRules s sheet).flatMap f

/-- Runs a check. -/
def run (s : Settings) (sheet : Stylesheet) : Check → Except PixelError (List Finding)
  | fixedDimensions => .ok (overRules s sheet (Rule.fixedDimensions s))
  | boxModel => .ok sheet.mixedSizing
  | overflowHorizontal => .ok (overRules s sheet Rule.horizontalOverflow)
  | mediaConflicts => .ok sheet.mediaConflicts
  | overflowMaskBody => .ok (overRules s sheet Rule.maskedBody)
  | vwWidthRisk => .ok (overRules s sheet Rule.viewportWidth)
  | breakpointFixedWidth => do
    return ((← (activeRules s sheet).mapM Rule.exceededBreakpoint)).flatten
  | mediaWidthInstability => (sheet.unstableWidths s).mapError .digits
  | flexFragility => .ok (overRules s sheet (Rule.fragileFlex s))
  | gridRigidity => .ok (overRules s sheet (Rule.rigidGrid s))
  | absoluteContainment => .ok (overRules s sheet Rule.absoluteOffsets)
  | antiPatterns => .ok (overRules s sheet (Rule.declarationHabits s))

end Check

/-- Runs checks on a stylesheet and gives each with its findings. -/
def detect (s : Settings) (sheet : Stylesheet) (checks : List Check) :
    Except PixelError (List (Check × List Finding)) :=
  checks.mapM fun check => return (check, ← check.run s sheet)

end Reflow
