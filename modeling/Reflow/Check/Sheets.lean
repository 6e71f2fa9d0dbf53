import Reflow.Check.Rules

/-!
# Checks of whole stylesheets

* `mixedSizing`: both box models in use.
* `mediaConflicts`: selectors whose rules disagree on a property.
* `unstableWidths`: selectors whose pixel width in a media block differs from the one outside. It
  fails as a whole if a width that is compared cannot be read.
-/

namespace Reflow.Stylesheet

/-- Both box models in use. -/
def mixedSizing (sheet : Stylesheet) : List Finding :=
  let uses (box : String) := sheet.rules.any fun r => (r.mentioning? "box-sizing" box).isSome
  if uses "border-box" && uses "content-box" then
    [.about .mixedBoxSizing "*" "box-sizing" "content-box"]
  else []

/-- The selectors of the rules, each once, in the order of their first rules. -/
def selectorsOf (rules : List Rule) : List String := (rules.map (·.selector)).eraseDups

/-- The declarations under a selector, over all its rules in order. -/
def declarationsUnder (rules : List Rule) (selector : String) : List (String × String) :=
  (rules.filter (·.selector = selector)).flatMap (·.declarations)

/-- The values that declarations give to a property, in order. -/
def valuesOf (declarations : List (String × String)) (property : String) : List String :=
  (declarations.filter (·.1 = property)).map (·.2)

/-- Whether two of the values differ. -/
def disagree : List String → Bool
  | [] => false
  | v :: rest => rest.any (· ≠ v)

/-- The first property with two values under a selector, in the order of first declarations, and
the value it was given last. -/
def conflict? (rules : List Rule) (selector : String) : Option (String × String) := do
  let declared := declarationsUnder rules selector
  let property ← (declared.map (·.1)).eraseDups.find? fun p => disagree (valuesOf declared p)
  let value ← (valuesOf declared property).getLast?
  return (property, value)

/-- One finding for each selector whose rules disagree. -/
def mediaConflicts (sheet : Stylesheet) : List Finding :=
  (selectorsOf sheet.rules).filterMap fun selector =>
    (conflict? sheet.rules selector).map fun (property, value) =>
      .about .mediaQueryInstability selector property value

/-- The widths given to a selector by the rules, in order. -/
def widthsOf (rules : List Rule) (selector : String) : List String :=
  (rules.filter (·.selector = selector)).filterMap (·.given? "width")

/-- The whole pixels of the last width outside media blocks. -/
def basePixels? (sheet : Stylesheet) (selector : String) :
    Except Text.DigitError (Option Nat) :=
  match (widthsOf sheet.baseRules selector).getLast? with
  | none => .ok none
  | some width => Length.wholePixels? width

/-- The first width in a media block whose whole pixels differ from those of the last width outside.
No width after it is read. -/
def unstableWidth? (sheet : Stylesheet) (selector : String) :
    Except Text.DigitError (Option String) := do
  match ← sheet.basePixels? selector with
  | none => return none
  | some pixels =>
    (widthsOf sheet.mediaRules selector).findM? fun width =>
      return (← Length.wholePixels? width).any (· ≠ pixels)

/-- The selectors that have a width in a media block and are not ignored, in the order of their
first widths there. -/
def mediaSelectors (sheet : Stylesheet) (s : Settings) : List String :=
  selectorsOf <| sheet.mediaRules.filter fun r =>
    (r.given? "width").isSome && !s.ignores r.selector

/-- The finding about a width in a media block that differs from the one outside. -/
def unstableFinding (selector width : String) : Finding :=
  { Finding.about .mediaQueryInstability selector "width" width with
    wording := Kind.mediaWidthWording }

/-- One finding for each selector whose pixel width in a media block differs from the one outside,
in the order of their first widths in media blocks. -/
def unstableWidths (sheet : Stylesheet) (s : Settings) : Except Text.DigitError (List Finding) := do
  let found ← (sheet.mediaSelectors s).mapM fun selector =>
    return (← sheet.unstableWidth? selector).map (unstableFinding selector)
  return found.filterMap id

end Reflow.Stylesheet
