import Mathlib.Data.List.Basic
import Mathlib.Data.List.Flatten
import Reflow.Analysis
import Reflow.Proofs.Binary64
import Reflow.Proofs.Outcomes

/-!
# Modes and thresholds

Which declaration stands for a rule is chosen before its value is held against a threshold. So
settings that report fewer values find a sublist: nothing is moved, changed or found instead.

* `Settings.ReportsLess`: whatever the first settings report, the second ones report too.
  `Settings.reportsLess_pragmatic` compares the modes, `Settings.reportsLess_of_le` thresholds.
* `Check.sublist_run`, `AgreeBy.detect`, `LineScan.sublist_scan`: one check, a list of checks, a
  scan of lines.
* `Settings.pragmatic_hides`: pragmatic mode and higher thresholds only hide findings.
-/

namespace Reflow

namespace Settings

/-- The same selectors are ignored, and whatever `s` reports, `t` reports too. -/
structure ReportsLess (s t : Settings) : Prop where
  ignored : s.ignored = t.ignored
  strict : s.mode = .strict → t.mode = .strict
  reports : ∀ measure value, s.reports measure value → t.reports measure value

theorem reports_of_strict {s : Settings} (h : s.mode = .strict) (measure : Measure)
    (value : Option Binary64) : s.reports measure value = true := by
  unfold reports reportsAny
  rw [h]

/-- A value that is missing or not finite, or that exceeds the threshold of its measure. -/
theorem reports_of_pragmatic {s : Settings} (h : s.mode = .pragmatic) (measure : Measure)
    (value : Option Binary64) :
    s.reports measure value ↔
      ∀ x, value = some x → x.isFinite → (s.threshold measure).lt x := by
  unfold reports reportsAny
  rw [h]
  cases value with
  | none => simp
  | some x => cases hx : x.isFinite <;> simp [hx]

theorem reportsLess_pragmatic (s : Settings) :
    ReportsLess { s with mode := .pragmatic } { s with mode := .strict } where
  ignored := rfl
  strict _ := rfl
  reports _ _ _ := reports_of_strict rfl _ _

theorem reportsLess_of_le {s t : Settings} (hs : s.mode = .pragmatic) (ht : t.mode = .pragmatic)
    (hignored : s.ignored = t.ignored) (h : ∀ m, (t.threshold m).le (s.threshold m)) :
    ReportsLess s t where
  ignored := hignored
  strict hstrict := nomatch hs.symm.trans hstrict
  reports measure value hreports := by
    rw [reports_of_pragmatic hs] at hreports
    rw [reports_of_pragmatic ht]
    exact fun x hx hfinite => Binary64.lt_of_le_of_lt (h measure) (hreports x hx hfinite)

variable {s t : Settings}

theorem ReportsLess.reportsValue (h : s.ReportsLess t) {measure : Measure} {value : String}
    (hvalue : s.reportsValue measure value) : t.reportsValue measure value :=
  h.reports _ _ hvalue

theorem ReportsLess.ignores (h : s.ReportsLess t) : s.ignores = t.ignores := by
  funext selector
  rw [Settings.ignores, Settings.ignores, h.ignored]

end Settings

/-! ## Lists with fewer findings -/

section Sublists

variable {α β : Type}

theorem toList_sublist {o o' : Option α} (h : ∀ a, o = some a → o' = some a) :
    o.toList.Sublist o'.toList := by
  cases o with
  | none => exact List.nil_sublist _
  | some a => rw [h a rfl]

theorem ite_nil_sublist {p q : Prop} [Decidable p] [Decidable q] {l : List α} (h : p → q) :
    (if p then l else []).Sublist (if q then l else []) := by
  by_cases hp : p
  · rw [if_pos hp, if_pos (h hp)]
  · rw [if_neg hp]
    exact List.nil_sublist _

theorem filterMap_sublist {f g : α → Option β} {l : List α}
    (h : ∀ a ∈ l, ∀ b, f a = some b → g a = some b) :
    (l.filterMap f).Sublist (l.filterMap g) := by
  rw [List.filterMap_eq_flatMap_toList, List.filterMap_eq_flatMap_toList]
  exact .flatMap_right l fun a ha => toList_sublist (h a ha)

end Sublists

/-! ## Checks of single rules -/

variable {s t : Settings}

namespace Rule

/-- A finding about a value that is reported. -/
theorem toList_map_filter_sublist (h : s.ReportsLess t) (value : Option String)
    (measure : Measure) (about : String → Finding) :
    ((value.filter (s.reportsValue measure)).map about).toList.Sublist
      ((value.filter (t.reportsValue measure)).map about).toList := by
  refine toList_sublist fun f hf => ?_
  obtain ⟨v, hv, rfl⟩ := Option.map_eq_some_iff.1 hf
  obtain ⟨hv, hreports⟩ := Option.filter_eq_some_iff.1 hv
  exact Option.map_eq_some_iff.2
    ⟨v, Option.filter_eq_some_iff.2 ⟨hv, h.reportsValue hreports⟩, rfl⟩

theorem sublist_fixedDimensions (h : s.ReportsLess t) (r : Rule) :
    (r.fixedDimensions s).Sublist (r.fixedDimensions t) := by
  refine .append (.append (.append ?_ ?_) (.refl _)) (.refl _)
  · exact toList_map_filter_sublist h _ _ _
  · exact toList_map_filter_sublist h _ _ _

theorem sublist_fragileFlex (h : s.ReportsLess t) (r : Rule) :
    (r.fragileFlex s).Sublist (r.fragileFlex t) := by
  unfold fragileFlex
  cases r.mentioning? "display" "flex" with
  | none => exact List.nil_sublist _
  | some display =>
    refine .append (.append (toList_sublist fun f hf => ?_) (.refl _))
      (toList_sublist fun f hf => ?_)
    -- The basis of an item that does not wrap is chosen without a look at the threshold.
    · obtain ⟨wrap, hwrap, hf⟩ := Option.bind_eq_some_iff.1 hf
      obtain ⟨⟨property, value, pixels⟩, hbasis, hf⟩ := Option.bind_eq_some_iff.1 hf
      obtain ⟨hreports, hf⟩ := guard_bind_eq_some_iff.1 hf
      refine Option.bind_eq_some_iff.2 ⟨wrap, hwrap, ?_⟩
      refine Option.bind_eq_some_iff.2 ⟨_, hbasis, ?_⟩
      exact guard_bind_eq_some_iff.2 ⟨h.reports _ _ hreports, hf⟩
    · obtain ⟨_, hgrow, hf⟩ := Option.bind_eq_some_iff.1 hf
      obtain ⟨basis, hbasis, hf⟩ := Option.bind_eq_some_iff.1 hf
      obtain ⟨hbasis, hreports⟩ := Option.filter_eq_some_iff.1 hbasis
      refine Option.bind_eq_some_iff.2 ⟨_, hgrow, ?_⟩
      refine Option.bind_eq_some_iff.2 ⟨basis, ?_, hf⟩
      exact Option.filter_eq_some_iff.2 ⟨hbasis, h.reportsValue hreports⟩

theorem reportsTracks_of_reportsLess (h : s.ReportsLess t) {r : Rule}
    (hs : reportsTracks s r) : reportsTracks t r := by
  unfold reportsTracks at hs ⊢
  cases ht : t.mode with
  | strict => rfl
  | pragmatic =>
    cases hm : s.mode with
    | strict => cases ht.symm.trans (h.strict hm)
    | pragmatic =>
      rw [hm] at hs
      obtain ⟨value, hvalue, hs⟩ := List.any_eq_true.1 hs
      obtain ⟨pixels, hpixels, hs⟩ := List.any_eq_true.1 hs
      exact List.any_eq_true.2 ⟨value, hvalue,
        List.any_eq_true.2 ⟨pixels, hpixels, h.reports _ _ hs⟩⟩

theorem sublist_rigidGrid (h : s.ReportsLess t) (r : Rule) :
    (r.rigidGrid s).Sublist (r.rigidGrid t) := by
  refine ite_nil_sublist fun hs => ?_
  rw [Bool.and_eq_true] at hs ⊢
  exact hs.imp_right (reportsTracks_of_reportsLess h)

theorem sublist_declarationHabits (h : s.ReportsLess t) (r : Rule) :
    (r.declarationHabits s).Sublist (r.declarationHabits t) := by
  refine .flatMap_right _ fun d _ => .append (.refl _) (ite_nil_sublist fun hs => ?_)
  rw [Bool.and_eq_true] at hs ⊢
  exact hs.imp_right h.reportsValue

end Rule

/-! ## All checks -/

namespace Check

theorem activeRules_congr (h : s.ignores = t.ignores) (sheet : Stylesheet) :
    activeRules s sheet = activeRules t sheet := by
  unfold activeRules
  rw [h]

theorem sublist_overRules (h : s.ReportsLess t) (sheet : Stylesheet)
    {f g : Rule → List Finding} (hrule : ∀ r, (f r).Sublist (g r)) :
    (overRules s sheet f).Sublist (overRules t sheet g) := by
  unfold overRules
  rw [activeRules_congr h.ignores]
  exact .flatMap_right _ fun r _ => hrule r

theorem sublist_run (h : s.ReportsLess t) (sheet : Stylesheet) (check : Check) :
    AgreeBy List.Sublist (check.run s sheet) (check.run t sheet) := by
  cases check with
  | fixedDimensions => exact sublist_overRules h sheet (Rule.sublist_fixedDimensions h)
  | boxModel => exact List.Sublist.refl _
  | overflowHorizontal => exact sublist_overRules h sheet fun _ => .refl _
  | mediaConflicts => exact List.Sublist.refl _
  | overflowMaskBody => exact sublist_overRules h sheet fun _ => .refl _
  | vwWidthRisk => exact sublist_overRules h sheet fun _ => .refl _
  | breakpointFixedWidth =>
    unfold run
    rw [activeRules_congr h.ignores]
    exact .refl List.Sublist.refl _
  | mediaWidthInstability =>
    unfold run Stylesheet.unstableWidths Stylesheet.mediaSelectors
    rw [h.ignores]
    exact .refl List.Sublist.refl _
  | flexFragility => exact sublist_overRules h sheet (Rule.sublist_fragileFlex h)
  | gridRigidity => exact sublist_overRules h sheet (Rule.sublist_rigidGrid h)
  | absoluteContainment => exact sublist_overRules h sheet fun _ => .refl _
  | antiPatterns => exact sublist_overRules h sheet (Rule.sublist_declarationHabits h)

end Check

theorem flatMap_sublist_of_forall₂ {α β γ : Type} {l : List α} {l' : List β} {f : α → List γ}
    {g : β → List γ} (h : List.Forall₂ (fun a b => (f a).Sublist (g b)) l l') :
    (l.flatMap f).Sublist (l'.flatMap g) := by
  induction h with
  | nil => exact .refl _
  | cons ha _ ih => exact ha.append ih

/-- Several checks fail alike or find a sublist. -/
theorem AgreeBy.detect (h : s.ReportsLess t) (sheet : Stylesheet) (checks : List Check) :
    AgreeBy (fun found all => (found.flatMap (·.2)).Sublist (all.flatMap (·.2)))
      (detect s sheet checks) (detect t sheet checks) := by
  have hone (check : Check) : AgreeBy (fun found all => found.2.Sublist all.2)
      (do return (check, ← check.run s sheet)) (do return (check, ← check.run t sheet)) := by
    have hrun := Check.sublist_run h sheet check
    generalize check.run s sheet = x at hrun ⊢
    generalize check.run t sheet = y at hrun ⊢
    match x, y, hrun with
    | .error _, .error _, he => exact he
    | .ok _, .ok _, hsub => exact hsub
  exact .imp (fun _ _ => flatMap_sublist_of_forall₂) (.mapM fun check _ => hone check)

theorem LineScan.sublist_scan (h : s.ReportsLess t) (source : String) :
    (scan s source).Sublist (scan t source) := by
  refine .flatMap_right _ fun line _ => filterMap_sublist fun entry _ f hf => ?_
  obtain ⟨extent, hextent, hf⟩ := Option.bind_eq_some_iff.1 hf
  obtain ⟨hreports, hf⟩ := guard_bind_eq_some_iff.1 hf
  refine Option.bind_eq_some_iff.2 ⟨extent, hextent, ?_⟩
  exact guard_bind_eq_some_iff.2 ⟨h.reports _ _ hreports, hf⟩

/-! ## Modes and thresholds -/

/-- What is found with settings `s` is what is found with `t`, some findings left out: by checks,
which fail with both or with neither, and by a scan of lines. -/
structure Settings.Hides (s t : Settings) : Prop where
  checks : ∀ (source : String) (checks : List Check),
    AgreeBy (fun found all => (found.flatMap (·.2)).Sublist (all.flatMap (·.2)))
      (detect s (Stylesheet.parse source) checks) (detect t (Stylesheet.parse source) checks)
  lines : ∀ source : String, (LineScan.scan s source).Sublist (LineScan.scan t source)

theorem Settings.ReportsLess.hides (h : s.ReportsLess t) : s.Hides t where
  checks _ checks := .detect h _ checks
  lines source := LineScan.sublist_scan h source

/-- Pragmatic mode hides some findings of strict mode, and higher thresholds hide some more. -/
theorem Settings.pragmatic_hides (s : Settings) {width height spacing : Binary64}
    (hwidth : s.widthThreshold.le width) (hheight : s.heightThreshold.le height)
    (hspacing : s.spacingThreshold.le spacing) :
    let strict := { s with mode := .strict }
    let pragmatic := { s with mode := .pragmatic }
    let higher := { pragmatic with
      widthThreshold := width, heightThreshold := height, spacingThreshold := spacing }
    pragmatic.Hides strict ∧ higher.Hides pragmatic := by
  intro strict pragmatic higher
  have hthreshold (m : Measure) : (pragmatic.threshold m).le (higher.threshold m) := by
    cases m <;> assumption
  have hless : higher.ReportsLess pragmatic := reportsLess_of_le rfl rfl rfl hthreshold
  exact ⟨s.reportsLess_pragmatic.hides, hless.hides⟩

/-- A width of 350 pixels is hidden by a threshold of 400, and one of 30 by either. -/
theorem Settings.pragmatic_hides_narrow :
    let strict := { standard with mode := .strict }
    let pragmatic := { standard with mode := .pragmatic }
    let higher := { pragmatic with
      widthThreshold := .ofNat 400, heightThreshold := .ofNat 320, spacingThreshold := .ofNat 24 }
    let widths (s : Settings) := (LineScan.scan s "width: 30px\nwidth: 350px").map (·.value)
    (standard.widthThreshold.le (.ofNat 400) ∧ standard.heightThreshold.le (.ofNat 320) ∧
        standard.spacingThreshold.le (.ofNat 24)) ∧
      (pragmatic.Hides strict ∧ higher.Hides pragmatic) ∧
      widths strict = [some "width: 30px", some "width: 350px"] ∧
      widths pragmatic = [some "width: 350px"] ∧ widths higher = [] := by
  intro strict pragmatic higher widths
  have hwidth : standard.widthThreshold.le (.ofNat 400) := by decide +kernel
  have hheight : standard.heightThreshold.le (.ofNat 320) := by decide +kernel
  have hspacing : standard.spacingThreshold.le (.ofNat 24) := by decide +kernel
  refine ⟨⟨hwidth, hheight, hspacing⟩, pragmatic_hides standard hwidth hheight hspacing, ?_, ?_, ?_⟩
  · decide +kernel
  · decide +kernel
  · decide +kernel

end Reflow
