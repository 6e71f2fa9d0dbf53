import Mathlib.Data.List.Basic
import Reflow.Proofs.Check.Findings

/-!
# Ignored selectors

A check of single rules, or of the widths under a selector, has findings under the selectors of
rules that are not ignored. So it makes no difference whether rules are passed over before the check
or findings are taken out after it.

* `Check.overRules_ignoring`, `Stylesheet.unstableWidths_ignoring`,
  `Check.run_breakpoint_ignoring`: the three ways in which checks pass over rules.
* `Check.run_ignoring`: every check filters by selector, but for the two that look at all rules.
-/

namespace Reflow

section Lists

variable {α β ε : Type} {p : α → Bool} {q : β → Bool} {l : List α}

/-- Items that are passed over make nothing, or what they make is taken out, also by work that may
fail, if it does not fail on any item. -/
theorem mapM_filter_of_key {work : α → Except ε (List β)} {made : List (List β)}
    (hmade : l.mapM work = .ok made)
    (h : ∀ a ∈ l, ∀ bs, work a = .ok bs → ∀ b ∈ bs, q b = p a) :
    ∃ kept, (l.filter p).mapM work = .ok kept ∧ kept.flatten = made.flatten.filter q := by
  induction l generalizing made with
  | nil =>
    cases hmade
    exact ⟨[], rfl, rfl⟩
  | cons a l ih =>
    obtain ⟨ha, hl⟩ := List.forall_mem_cons.1 h
    rw [List.mapM_cons] at hmade
    cases hwork : work a with
    | error e => rw [hwork] at hmade; cases hmade
    | ok bs =>
      cases hrest : l.mapM work with
      | error e => rw [hwork, hrest] at hmade; cases hmade
      | ok rest =>
        rw [hwork, hrest] at hmade
        cases hmade
        obtain ⟨kept, hkept, hflat⟩ := ih hrest hl
        rw [List.filter_cons, List.flatten_cons, List.filter_append, ← hflat]
        by_cases hp : p a
        · rw [if_pos hp, List.mapM_cons, hwork, hkept,
            List.filter_eq_self.2 fun b hb => (ha bs hwork b hb).trans hp]
          exact ⟨bs :: kept, rfl, rfl⟩
        · have hnone : bs.filter q = [] :=
            List.filter_eq_nil_iff.2 fun b hb => ha bs hwork b hb ▸ hp
          rw [if_neg hp, hnone]
          exact ⟨kept, hkept, rfl⟩

end Lists

/-! ## Passing over rules -/

variable {s : Settings}

/-- Whether a finding stands under a selector that is not ignored. -/
def Settings.keeps (s : Settings) (f : Finding) : Bool := !s.ignores f.selector

theorem Rule.Declares.keeps_eq {r : Rule} {f : Finding} (h : r.Declares f) (s : Settings) :
    s.keeps f = !s.ignores r.selector := by
  rw [Settings.keeps, h.backs.1]

namespace Check

theorem activeRules_all (h : s.ignored = []) (sheet : Stylesheet) :
    activeRules s sheet = sheet.rules := by
  refine List.filter_eq_self.2 fun r _ => ?_
  rw [Settings.ignores, h]
  rfl

theorem overRules_ignoring {all : Settings} (hall : all.ignored = []) (s : Settings)
    (sheet : Stylesheet) {f : Rule → List Finding} (h : ∀ r g, g ∈ f r → r.Declares g) :
    overRules s sheet f = (overRules all sheet f).filter s.keeps := by
  unfold overRules
  rw [activeRules_all hall]
  exact (filter_flatMap_of_key fun r _ g hg => (h r g hg).keeps_eq s).symm

theorem run_breakpoint_ignoring {all : Settings} (hall : all.ignored = []) (s : Settings)
    (sheet : Stylesheet) {found : List Finding}
    (hfound : run all sheet .breakpointFixedWidth = .ok found) :
    run s sheet .breakpointFixedWidth = .ok (found.filter s.keeps) := by
  unfold run at hfound ⊢
  rw [activeRules_all hall] at hfound
  cases hmade : sheet.rules.mapM Rule.exceededBreakpoint with
  | error e => rw [hmade] at hfound; cases hfound
  | ok made =>
    rw [hmade] at hfound
    cases hfound
    obtain ⟨kept, hkept, hflat⟩ := mapM_filter_of_key hmade fun r _ list hlist g hg =>
      (Rule.declares_exceededBreakpoint hlist hg).keeps_eq s
    unfold activeRules
    rw [hkept, ← hflat]
    rfl

end Check

namespace Stylesheet

theorem mediaSelectors_ignoring {all : Settings} (hall : all.ignored = []) (s : Settings)
    (sheet : Stylesheet) :
    sheet.mediaSelectors s = (sheet.mediaSelectors all).filter (!s.ignores ·) := by
  have hnone (selector : String) : all.ignores selector = false := by
    rw [Settings.ignores, hall]
    rfl
  unfold mediaSelectors selectorsOf
  rw [← eraseDups_filter, List.filter_map, List.filter_filter]
  refine congrArg (fun rules => (rules.map Rule.selector).eraseDups) (List.filter_congr ?_)
  intro r _
  rw [hnone, Bool.and_comm]
  simp

/-- Whether a selector is ignored does not matter for the widths of another one. -/
theorem unstableWidths_ignoring {all : Settings} (hall : all.ignored = []) (s : Settings)
    (sheet : Stylesheet) {found : List Finding} (hfound : sheet.unstableWidths all = .ok found) :
    sheet.unstableWidths s = .ok (found.filter s.keeps) := by
  have hok := exists_unstableWidths_iff.1 ⟨found, hfound⟩
  rw [unstableWidths_of_ok hok] at hfound
  cases hfound
  have hselectors := mediaSelectors_ignoring hall s sheet
  rw [unstableWidths_of_ok fun selector hselector => hok selector ?_, hselectors]
  · refine congrArg Except.ok (filter_filterMap_of_key fun selector _ f hf => ?_).symm
    obtain ⟨width, -, rfl⟩ := Option.map_eq_some_iff.1 hf
    rfl
  · rw [hselectors] at hselector
    exact (List.mem_filter.1 hselector).1

end Stylesheet

/-- What a check finds if selectors are ignored is what it finds if none are, without the findings
under those selectors. The two checks that look at all rules find the same in either case. -/
theorem Check.run_ignoring (s : Settings) (sheet : Stylesheet) (check : Check) :
    let all := { s with ignored := [] }
    (check ≠ .boxModel → check ≠ .mediaConflicts → ∀ found, check.run all sheet = .ok found →
        check.run s sheet = .ok (found.filter fun f => !s.ignores f.selector)) ∧
      (check = .boxModel ∨ check = .mediaConflicts → check.run s sheet = check.run all sheet) := by
  intro all
  have hall : all.ignored = [] := rfl
  constructor
  · intro hbox hconflicts found hfound
    have hover {f : Rule → List Finding} (h : ∀ r g, g ∈ f r → r.Declares g)
        (hrun : Except.ok (overRules all sheet f) = (.ok found : Except PixelError _)) :
        (.ok (overRules s sheet f) : Except PixelError _) = .ok (found.filter s.keeps) := by
      cases hrun
      rw [overRules_ignoring hall s sheet h]
    cases check with
    | boxModel => exact absurd rfl hbox
    | mediaConflicts => exact absurd rfl hconflicts
    | fixedDimensions => exact hover (fun _ _ => Rule.declares_fixedDimensions) hfound
    | overflowHorizontal => exact hover (fun _ _ => Rule.declares_horizontalOverflow) hfound
    | overflowMaskBody => exact hover (fun _ _ => Rule.declares_maskedBody) hfound
    | vwWidthRisk => exact hover (fun _ _ => Rule.declares_viewportWidth) hfound
    | breakpointFixedWidth => exact run_breakpoint_ignoring hall s sheet hfound
    | mediaWidthInstability =>
      have hkept := sheet.unstableWidths_ignoring hall s (mapError_eq_ok_iff.1 hfound)
      exact mapError_eq_ok_iff.2 hkept
    | flexFragility => exact hover (fun _ _ => Rule.declares_fragileFlex) hfound
    | gridRigidity => exact hover (fun _ _ => Rule.declares_rigidGrid) hfound
    | absoluteContainment => exact hover (fun _ _ => Rule.declares_absoluteOffsets) hfound
    | antiPatterns => exact hover (fun _ _ => Rule.declares_declarationHabits) hfound
  · rintro (rfl | rfl) <;> rfl

/-- Of two unstable widths the one under the ignored selector is taken out; its conflict stays. -/
theorem Check.run_ignoring_widths :
    let s : Settings := { Settings.standard with ignored := [".b"] }
    let all : Settings := { s with ignored := [] }
    let media : AtRule := ⟨"media", "print"⟩
    let sheet : Stylesheet := ⟨[⟨".a", [("width", "9px")], none⟩, ⟨".B", [("width", "8px")], none⟩,
      ⟨".a", [("width", "7px")], some media⟩, ⟨".B", [("width", "6px")], some media⟩]⟩
    let found := [Stylesheet.unstableFinding ".a" "7px", Stylesheet.unstableFinding ".B" "6px"]
    (Check.mediaWidthInstability ≠ .boxModel ∧ Check.mediaWidthInstability ≠ .mediaConflicts ∧
        Check.mediaWidthInstability.run all sheet = .ok found) ∧
      Check.mediaWidthInstability.run s sheet =
        .ok (found.filter fun f => !s.ignores f.selector) ∧
      (found.filter fun f => !s.ignores f.selector) = [Stylesheet.unstableFinding ".a" "7px"] ∧
      Check.mediaConflicts.run s sheet = Check.mediaConflicts.run all sheet ∧
      sheet.mediaConflicts.map (·.selector) = [".a", ".B"] := by
  intro s all media sheet found
  have hrun : Check.mediaWidthInstability.run all sheet = .ok found := by decide +kernel
  refine ⟨⟨by decide, by decide, hrun⟩, ?_, by decide +kernel, ?_, by decide +kernel⟩
  · exact (run_ignoring s sheet .mediaWidthInstability).1 (by decide) (by decide) found hrun
  · exact (run_ignoring s sheet .mediaConflicts).2 (.inr rfl)

end Reflow
