import Reflow.Length
import Reflow.Text.Quoted

/-!
# Settings of an analysis

* `Mode`: strict mode reports every fixed value, pragmatic mode the values over a threshold.
* `Settings`: the mode, the thresholds, the selectors to ignore and the number of findings to keep.
* `Settings.reports`: whether a fixed value of some measure is worth a finding.
-/

namespace Reflow

/-- How strict an analysis is. -/
inductive Mode where
  | strict
  | pragmatic
deriving DecidableEq, Repr

namespace Mode

/-- The modes. -/
def all : List Mode := [.strict, .pragmatic]

/-- The name of a mode. -/
def name : Mode → String
  | strict => "strict"
  | pragmatic => "pragmatic"

/-- A text that names no mode. -/
structure Unknown where
  given : String
deriving DecidableEq, Repr

/-- The message for a text that names no mode. -/
def Unknown.message (e : Unknown) : String :=
  "Unknown mode " ++ Text.quoted e.given ++ "; expected one of: "
    ++ ", ".intercalate (all.map name)

/-- The mode that a text names, up to letter case and surrounding blanks. -/
def parse (text : String) : Except Unknown Mode :=
  let given := String.ofList (Text.lower (Text.trim text.toList))
  match all.find? (·.name = given) with
  | some mode => .ok mode
  | none => .error ⟨text⟩

end Mode

/-- What a fixed value measures. -/
inductive Measure where
  | width
  | height
  | spacing
  | flexBasis
  | gridTrack
deriving DecidableEq, Repr

namespace Measure

/-- The measures. -/
def all : List Measure := [.width, .height, .spacing, .flexBasis, .gridTrack]

/-- The name of a measure. -/
def name : Measure → String
  | width => "width"
  | height => "height"
  | spacing => "spacing"
  | flexBasis => "flex-basis"
  | gridTrack => "grid-track"

/-- The measure of that name. -/
def ofName? (name : String) : Option Measure := all.find? (·.name = name)

end Measure

/-- The settings of one analysis. -/
structure Settings where
  mode : Mode
  widthThreshold : Binary64
  heightThreshold : Binary64
  spacingThreshold : Binary64
  ignored : List String
  maxProblems : Int
deriving DecidableEq, Repr

namespace Settings

/-- Strict, 320 pixels for widths and heights, 24 for spacing, nothing ignored, 100 findings. -/
def standard : Settings where
  mode := .strict
  widthThreshold := .ofNat 320
  heightThreshold := .ofNat 320
  spacingThreshold := .ofNat 24
  ignored := []
  maxProblems := 100

/-- The texts to look for in selectors: in lower case, without surrounding blanks or blank ones. -/
def ignoredTexts (given : List String) : List String :=
  (given.filter fun p => !(Text.trim p.toList).isEmpty).map fun p =>
    String.ofList (Text.lower (Text.trim p.toList))

/-- Whether a selector holds an ignored text, up to letter case. -/
def ignores (s : Settings) (selector : String) : Bool :=
  s.ignored.any fun p => Text.contains p.toList (Text.lower selector.toList)

/-- The threshold of a measure. Flex bases and grid tracks are widths. -/
def threshold (s : Settings) : Measure → Binary64
  | .width | .flexBasis | .gridTrack => s.widthThreshold
  | .height => s.heightThreshold
  | .spacing => s.spacingThreshold

/-- Whether a fixed value is worth a finding. In pragmatic mode it must exceed the threshold of its
measure; what has no threshold, or is no finite number, is always worth one. -/
def reportsAny (s : Settings) (measure : Option Measure) (value : Option Binary64) : Bool :=
  match s.mode, value, measure with
  | .strict, _, _ => true
  | .pragmatic, none, _ => true
  | .pragmatic, some _, none => true
  | .pragmatic, some x, some m => !x.isFinite || (s.threshold m).lt x

/-- Whether a number of pixels is worth a finding. -/
def reports (s : Settings) (measure : Measure) (value : Option Binary64) : Bool :=
  s.reportsAny (some measure) value

/-- Whether the first pixel number of a property's value is worth a finding. -/
def reportsValue (s : Settings) (measure : Measure) (value : String) : Bool :=
  s.reports measure (Length.pixels? value)

end Settings

end Reflow
