import Reflow.Proofs.Check.Thresholds
import Reflow.Proofs.Check.Witnesses
import Reflow.Proofs.Length.FirstNumbers
import Reflow.Proofs.LineScan.Matches

/-!
# Values over a threshold

Pragmatic mode reports the values over a threshold, and any value without a number as well. Of the
kinds here no finding is owed to the second: what tells a fixed value is a whole number of pixels
that is a word of its own, and the reader of numbers, which asks for no words, finds one there or
further left.

* `Kind.gate?`: the kinds for which the first number of the value decides.
* `Finding.PassesGate`: that number is there and is reported. `Rule.Finds.passesGate`,
  `Check.passesGate_of_mem_run`, `LineScan.passesGate_of_mem_scan`: the findings of a rule, of a
  check, of a scan of lines.
* `Finding.Exceeds`: what this says of a value in pragmatic mode.
* `Analysis.exceeds_of_gate`: all findings of all analyses.
-/

namespace Reflow

open Text Length

/-- What a finding of the kind measures, if the first pixel number of its value is held against a
threshold. Other kinds have no threshold, or other numbers are held against theirs. -/
def Kind.gate? : Kind → Option Measure
  | fixedWidth => some .width
  | fixedHeight => some .height
  | fixedPixelSpacing => some .spacing
  | rigidFlexItem => some .flexBasis
  | _ => none

example : (Kind.all.filter (·.gate?.isSome)).map (·.label) =
    ["Fixed width", "Fixed height", "Rigid flex item", "Fixed pixel spacing"] := by decide

variable {s : Settings} {sheet : Stylesheet} {r : Rule} {f : Finding} {kind : Kind}
  {measure : Measure} {property value source language : String}

/-! ## Gates -/

namespace Finding

/-- If the kind of the finding has a gate, its value has a first pixel number, which is reported. -/
def PassesGate (f : Finding) (s : Settings) : Prop :=
  ∀ measure, f.kind.gate? = some measure → ∃ value number, f.value = some value ∧
    IsFirst IsPixelNumber number value.toList ∧ s.reports measure (some number.toBinary64)

/-- The value of the finding has a first pixel number, which is over the threshold or past all
doubles. -/
def Exceeds (f : Finding) (threshold : Binary64) : Prop :=
  ∃ value first, f.value = some value ∧ pixels? value = some first ∧
    (threshold.lt first ∨ first = .infinite false)

theorem passesGate_of_ungated (hkind : f.kind = kind) (h : kind.gate? = none) :
    f.PassesGate s := by
  intro measure hgate
  rw [hkind, h] at hgate
  cases hgate

theorem passesGate_of_isFixed (hfixed : isFixed value) (hreports : s.reportsValue measure value)
    (hvalue : f.value = some value) (hgate : f.kind.gate? = some measure) : f.PassesGate s := by
  intro measure' hgate'
  obtain rfl : measure = measure' := Option.some.inj (hgate.symm.trans hgate')
  obtain ⟨number, hnumber⟩ := exists_isFirst_of_isFixed hfixed
  refine ⟨value, number, hvalue, hnumber, ?_⟩
  rwa [Settings.reportsValue, pixels?_of_isFirst hnumber] at hreports

/-- In pragmatic mode only values over the threshold pass a gate, and those past all doubles. -/
theorem PassesGate.exceeds (h : f.PassesGate s) (hmode : s.mode = .pragmatic)
    (hgate : f.kind.gate? = some measure) : f.Exceeds (s.threshold measure) := by
  obtain ⟨value, number, hvalue, hnumber, hreports⟩ := h measure hgate
  rw [Settings.reports_of_pragmatic hmode] at hreports
  refine ⟨value, number.toBinary64, hvalue, pixels?_of_isFirst hnumber, ?_⟩
  rcases number.toBinary64_cases with ⟨units, hunits⟩ | hinfinite
  · exact .inl (hreports _ rfl (by rw [hunits]; rfl))
  · exact .inr hinfinite

end Finding

open Finding

/-! ## Rules -/

namespace Rule

theorem kind_of_mem_horizontalOverflow (h : f ∈ r.horizontalOverflow) :
    f.kind = .horizontalOverflowRisk ∨ f.kind = .cumulativeHorizontalOverflow ∨
      f.kind = .nowrapFixedWidth := by
  simp only [horizontalOverflow, List.mem_append, Option.mem_toList,
    Option.map_eq_some_iff, List.mem_ite_nil_right] at h
  rcases h with (⟨-, d, -, rfl⟩ | ⟨-, v, -, rfl⟩) | ⟨-, d, -, rfl⟩
  · exact .inl rfl
  · exact .inr (.inl rfl)
  · exact .inr (.inr rfl)

theorem kind_of_mem_maskedBody (h : f ∈ r.maskedBody) : f.kind = .bodyOverflowMasking := by
  simp only [maskedBody, Option.mem_toList, Option.map_eq_some_iff, List.mem_ite_nil_right] at h
  obtain ⟨-, v, -, rfl⟩ := h
  rfl

theorem kind_of_mem_viewportWidth (h : f ∈ r.viewportWidth) :
    f.kind = .viewportWidthOverflow := by
  simp only [viewportWidth, Option.mem_toList, Option.map_eq_some_iff] at h
  obtain ⟨v, -, rfl⟩ := h
  rfl

theorem kind_of_mem_exceededBreakpoint {found : List Finding}
    (hfound : r.exceededBreakpoint = .ok found) (h : f ∈ found) :
    f.kind = .widthExceedsBreakpoint := by
  obtain ⟨width, -, rfl⟩ := exists_width_of_mem_exceededBreakpoint hfound h
  rfl

theorem kind_of_mem_rigidGrid (h : f ∈ r.rigidGrid s) : f.kind = .rigidGridTracks := by
  simp only [rigidGrid, Option.mem_toList, Option.map_eq_some_iff, List.mem_ite_nil_right] at h
  obtain ⟨-, d, -, rfl⟩ := h
  rfl

theorem kind_of_mem_absoluteOffsets (h : f ∈ r.absoluteOffsets) : f.kind = .absoluteRigidity := by
  simp only [absoluteOffsets, Option.mem_toList, Option.map_eq_some_iff,
    List.mem_ite_nil_right] at h
  obtain ⟨-, d, -, rfl⟩ := h
  rfl

theorem passesGate_fixedDimensions (h : f ∈ r.fixedDimensions s) : f.PassesGate s := by
  simp only [fixedDimensions, List.mem_append, Option.mem_toList,
    Option.map_eq_some_iff, Option.filter_eq_some_iff, List.mem_ite_nil_right] at h
  rcases h with ((⟨v, ⟨hv, hreports⟩, rfl⟩ | ⟨v, ⟨hv, hreports⟩, rfl⟩) | ⟨-, v, -, rfl⟩) | ⟨d, -, rfl⟩
  · exact passesGate_of_isFixed (fixed?_eq_some_iff.1 hv).2 hreports rfl rfl
  · exact passesGate_of_isFixed (fixed?_eq_some_iff.1 hv).2 hreports rfl rfl
  · exact passesGate_of_ungated rfl rfl
  · exact passesGate_of_ungated rfl rfl

theorem passesGate_fragileFlex (h : f ∈ r.fragileFlex s) : f.PassesGate s := by
  unfold fragileFlex at h
  split at h
  · cases h
  · rw [List.mem_append, List.mem_append, Option.mem_toList, Option.mem_toList] at h
    rcases h with (h | h) | h
    · obtain ⟨_, -, h⟩ := Option.bind_eq_some_iff.1 h
      obtain ⟨⟨p, v, x⟩, -, h⟩ := Option.bind_eq_some_iff.1 h
      obtain ⟨_, -, h⟩ := Option.bind_eq_some_iff.1 h
      cases h
      exact passesGate_of_ungated rfl rfl
    · rw [List.mem_ite_nil_right, List.mem_singleton] at h
      obtain ⟨-, rfl⟩ := h
      exact passesGate_of_ungated rfl rfl
    · obtain ⟨_, -, h⟩ := Option.bind_eq_some_iff.1 h
      obtain ⟨v, hv, h⟩ := Option.bind_eq_some_iff.1 h
      cases h
      obtain ⟨hv, hreports⟩ := Option.filter_eq_some_iff.1 hv
      exact passesGate_of_isFixed (fixed?_eq_some_iff.1 hv).2 hreports rfl rfl

theorem passesGate_declarationHabits (h : f ∈ r.declarationHabits s) : f.PassesGate s := by
  obtain ⟨d, -, h⟩ := List.mem_flatMap.1 h
  simp only [List.mem_append, List.mem_ite_nil_right, List.mem_singleton, Bool.and_eq_true] at h
  rcases h with ⟨-, rfl⟩ | ⟨⟨⟨-, hfixed⟩, hreports⟩, rfl⟩
  · exact passesGate_of_ungated rfl rfl
  · exact passesGate_of_isFixed hfixed hreports rfl rfl

theorem Finds.passesGate (h : r.Finds s f) : f.PassesGate s := by
  cases h with
  | fixedDimensions h => exact passesGate_fixedDimensions h
  | horizontalOverflow h =>
    rcases kind_of_mem_horizontalOverflow h with h | h | h
    · exact passesGate_of_ungated h rfl
    · exact passesGate_of_ungated h rfl
    · exact passesGate_of_ungated h rfl
  | maskedBody h => exact passesGate_of_ungated (kind_of_mem_maskedBody h) rfl
  | viewportWidth h => exact passesGate_of_ungated (kind_of_mem_viewportWidth h) rfl
  | exceededBreakpoint hfound h =>
    exact passesGate_of_ungated (kind_of_mem_exceededBreakpoint hfound h) rfl
  | fragileFlex h => exact passesGate_fragileFlex h
  | rigidGrid h => exact passesGate_of_ungated (kind_of_mem_rigidGrid h) rfl
  | absoluteOffsets h => exact passesGate_of_ungated (kind_of_mem_absoluteOffsets h) rfl
  | declarationHabits h => exact passesGate_declarationHabits h

end Rule

/-! ## Checks and scans -/

theorem Check.passesGate_of_mem_run {check : Check} {found : List Finding}
    (hfound : check.run s sheet = .ok found) (h : f ∈ found) : f.PassesGate s := by
  rcases finds_of_mem_run hfound h with ⟨r, -, hr⟩ | ⟨-, h⟩ | h | h
  · exact hr.passesGate
  · exact passesGate_of_ungated (Stylesheet.kind_of_mem_mixedSizing h) rfl
  · exact passesGate_of_ungated (Stylesheet.kind_of_mem_mediaConflicts h) rfl
  · exact passesGate_of_ungated h.kind_eq rfl

namespace LineScan

theorem gate?_of_mem_measures (h : (property, kind, measure) ∈ measures) :
    kind.gate? = some measure := by
  rcases cases_of_mem_measures h with ⟨-, rfl, rfl⟩ | ⟨-, rfl, rfl⟩ <;> rfl

/-- A scan asks for no fixed value. It matches a number behind the letters of the property and a
colon, and no spelling of a letter is a digit, so that number is the first of the match. -/
theorem passesGate_of_mem_scan (h : f ∈ scan s source) : f.PassesGate s := by
  obtain ⟨index, line, property, kind, measure, e, unit, -, hmeasure, he, hreports, -, rfl⟩ :=
    exists_of_mem_scan h
  obtain ⟨a, word, blanks, number, u, b, hletters, hblanks, hu, -, hcut⟩ := exists_cut_of_first? he
  rw [hcut, declaredPixels?_eq_some hletters hblanks hu] at hreports
  have hlead : ∀ c ∈ word ++ ':' :: blanks, isDigit c = false := by
    intro c hc
    rw [List.mem_append, List.mem_cons] at hc
    rcases hc with hc | rfl | hc
    · exact not_isDigit_of_letters (isNameCharacter_of_mem_measures hmeasure) hletters c hc
    · decide
    · exact not_isDigit_of_isBlank (hblanks c hc)
  have hfirst := isFirst_of_lead IsPixelNumber.isSpaced hlead hu []
  intro measure' hgate
  obtain rfl : measure = measure' :=
    Option.some.inj ((gate?_of_mem_measures hmeasure).symm.trans hgate)
  refine ⟨_, number, rfl, ?_, hreports⟩
  rw [String.toList_ofList, hcut]
  simpa using hfirst

end LineScan

/-! ## Analyses -/

theorem Analysis.passesGate_of_mem_analyze {checks : List Check} {result : Result}
    (h : analyze source language s checks = .ok result) (hf : f ∈ result.findings) :
    f.PassesGate s := by
  rcases cases_of_mem_analyze h hf with ⟨check, found, hrun, g, hg, rfl⟩ | hscan
  · have hpass : g.PassesGate s := Check.passesGate_of_mem_run hrun hg
    exact hpass
  · exact LineScan.passesGate_of_mem_scan hscan

/-- A fixed value has pixel numbers; the first of them is the one that is held against a threshold,
and it is a number. So in pragmatic mode every finding of a kind with a gate has a value whose first
pixel number is over the threshold of the kind or past all doubles, whatever the checks are and
whether a stylesheet or a source text is analysed. -/
theorem Analysis.exceeds_of_gate :
    (∀ value, isFixed value → ∃ first rest,
      allPixels value = first :: rest ∧ pixels? value = some first ∧ first ≠ .nan) ∧
    ∀ s : Settings, s.mode = .pragmatic →
      (∀ sheet checks found, detect s sheet checks = .ok found → ∀ f ∈ found.flatMap (·.2),
        ∀ measure, f.kind.gate? = some measure → f.Exceeds (s.threshold measure)) ∧
      ∀ source language checks result, analyze source language s checks = .ok result →
        ∀ f ∈ result.findings,
          ∀ measure, f.kind.gate? = some measure → f.Exceeds (s.threshold measure) := by
  refine ⟨fun value hfixed => ?_, fun s hmode => ⟨?_, ?_⟩⟩
  · obtain ⟨number, hnumber⟩ := exists_isFirst_of_isFixed hfixed
    obtain ⟨rest, hall⟩ := allPixels_of_isFirst hnumber
    exact ⟨_, rest, hall, pixels?_of_isFirst hnumber, number.toBinary64_ne_nan⟩
  · intro sheet checks found hfound f hf measure hgate
    obtain ⟨check, list, hrun, hf⟩ := exists_run_of_mem_detect hfound hf
    exact (Check.passesGate_of_mem_run hrun hf).exceeds hmode hgate
  · intro source language checks result hresult f hf measure hgate
    exact (passesGate_of_mem_analyze hresult hf).exceeds hmode hgate

/-- A width of 400 pixels is over the threshold of 320, for the checks of rules and for a scan of
lines. -/
theorem Analysis.exceeds_of_gate_wide :
    let s := { Settings.standard with mode := .pragmatic }
    let sheet : Stylesheet := ⟨[⟨".a", [("width", "400px")], none⟩]⟩
    (∃ first rest, allPixels "400px" = first :: rest ∧ pixels? "400px" = some first ∧
        first ≠ .nan) ∧
      (∃ found, detect s sheet Check.all = .ok found ∧ ∃ f ∈ found.flatMap (·.2),
        f.kind.gate? = some .width ∧ f.Exceeds (s.threshold .width)) ∧
      ∃ result, analyze "width: 400px" "less" s Check.all = .ok result ∧ ∃ f ∈ result.findings,
        f.kind.gate? = some .width ∧ f.Exceeds (s.threshold .width) := by
  intro s sheet
  obtain ⟨hvalues, hmodes⟩ := Analysis.exceeds_of_gate
  obtain ⟨hdetect, hanalyze⟩ := hmodes s rfl
  refine ⟨hvalues "400px" (by decide), ?_, ?_⟩
  · have hgated : (detect s sheet Check.all).toOption.any fun found =>
        (found.flatMap (·.2)).any (·.kind.gate? = some .width) := by
      decide +kernel
    cases hfound : detect s sheet Check.all with
    | error cause => rw [hfound] at hgated; cases hgated
    | ok found =>
      rw [hfound] at hgated
      obtain ⟨f, hf, hgate⟩ := List.any_eq_true.1 hgated
      have hgate : f.kind.gate? = some .width := of_decide_eq_true hgate
      exact ⟨found, rfl, f, hf, hgate, hdetect sheet Check.all found hfound f hf .width hgate⟩
  · have hgated : (analyze "width: 400px" "less" s Check.all).toOption.any fun result =>
        result.findings.any (·.kind.gate? = some .width) := by
      decide +kernel
    cases hresult : analyze "width: 400px" "less" s Check.all with
    | error cause => rw [hresult] at hgated; cases hgated
    | ok result =>
      rw [hresult] at hgated
      obtain ⟨f, hf, hgate⟩ := List.any_eq_true.1 hgated
      have hgate : f.kind.gate? = some .width := of_decide_eq_true hgate
      exact ⟨result, rfl, f, hf, hgate,
        hanalyze "width: 400px" "less" Check.all result hresult f hf .width hgate⟩

end Reflow
