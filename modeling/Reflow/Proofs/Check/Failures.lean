import Mathlib.Logic.Basic
import Reflow.Proofs.Binary64
import Reflow.Proofs.Check.Findings

/-!
# When a check fails

Two checks compare numbers of pixels. A whole number of pixels may have too many digits to be read,
and a width that is compared with a breakpoint needs an integer part, which an infinite number of
pixels does not have. A check fails as a whole, at the first rule or selector that it fails at.

* `Length.IsUnreadable`: the values whose whole number of pixels has too many digits.
* `Rule.FailsWith`, `Rule.exceededBreakpoint_eq_error_iff`: where the breakpoint check fails.
* `Stylesheet.FailsUnder`, `Stylesheet.unstableWidth?_eq_error_iff`: where the check of widths in
  media blocks fails.
* `Check.FailsWith`, `Check.run_eq_error_iff`, `detect_eq_error_iff`: all failures of a check, and
  of a list of checks.
-/

namespace Reflow

open Text

/-! ## Numbers of pixels -/

namespace Length

variable {value : String} {n : Nat} {cause : DigitError}

theorem pixels?_cases {pixels : Binary64} (h : pixels? value = some pixels) :
    (∃ units, pixels = .finite false units) ∨ pixels = .infinite false := by
  obtain ⟨extent, -, h⟩ := Option.bind_eq_some_iff.1 h
  obtain ⟨⟨number, rest⟩, -, h⟩ := Option.bind_eq_some_iff.1 h
  cases h
  exact Binary64.ofDecimal_cases _ _ _

/-- The first whole number of pixels in the value has too many digits to be read. -/
def IsUnreadable (value : String) (cause : DigitError) : Prop :=
  ∃ digits, wholeDigits? value = some digits ∧ digitLimit < digits.length ∧
    cause = .unreadable digits.length

theorem wholePixels?_of_some {digits : List Char} (h : wholeDigits? value = some digits) :
    wholePixels? value = (readDigits digits).map some := by
  rw [wholePixels?, h, Option.mapM_some]
  cases readDigits digits <;> rfl

theorem wholePixels?_eq_error_iff :
    wholePixels? value = .error cause ↔ IsUnreadable value cause := by
  cases h : wholeDigits? value with
  | none =>
    refine iff_of_false ?_ ?_
    · rw [wholePixels?, h]
      exact nofun
    · rintro ⟨digits, hdigits, -⟩
      cases h.symm.trans hdigits
  | some digits =>
    have hread : (readDigits digits).map some = .error cause ↔
        readDigits digits = .error cause := by
      cases readDigits digits <;> simp [Except.map]
    rw [wholePixels?_of_some h, hread, readDigits_eq_error_iff]
    constructor
    · rintro ⟨hlength, rfl⟩
      exact ⟨digits, h, hlength, rfl⟩
    · rintro ⟨digits', hdigits, hlength, rfl⟩
      cases h.symm.trans hdigits
      exact ⟨hlength, rfl⟩

theorem wholePixels?_eq_some_iff :
    wholePixels? value = .ok (some n) ↔
      ∃ digits, wholeDigits? value = some digits ∧ digits.length ≤ digitLimit ∧
        numeral digits = n := by
  cases h : wholeDigits? value with
  | none =>
    refine iff_of_false ?_ ?_
    · rw [wholePixels?, h]
      exact nofun
    · rintro ⟨digits, hdigits, -⟩
      cases hdigits
  | some digits =>
    have hread : (readDigits digits).map some = .ok (some n) ↔ readDigits digits = .ok n := by
      cases readDigits digits <;> simp [Except.map]
    rw [wholePixels?_of_some h, hread, readDigits_eq_ok_iff]
    simp

end Length

/-! ## Rules -/

namespace Rule

variable {r : Rule} {cause : PixelError}

/-- The rule stands in a media block whose condition has a number of pixels, and the first number
of pixels in its width is past the doubles. -/
def HasEndlessWidth (r : Rule) : Prop :=
  ∃ condition breakpoint width,
    r.mediaCondition? = some condition ∧ Length.wholePixels? condition = .ok (some breakpoint) ∧
    r.value? "width" = some width ∧ Length.pixels? width = some (.infinite false)

/-- The width of the rule cannot be compared with its breakpoint: the breakpoint is not read,
whatever the width is, or it is read and the width has no integer part. -/
inductive FailsWith (r : Rule) : PixelError → Prop
  | breakpoint {condition : String} {cause : DigitError}
      (hcondition : r.mediaCondition? = some condition)
      (h : Length.IsUnreadable condition cause) : FailsWith r (.digits cause)
  | width (h : r.HasEndlessWidth) : FailsWith r .infiniteWidth

theorem breakpoint?_eq_error_iff :
    r.breakpoint? = .error cause ↔ ∃ condition digits, r.mediaCondition? = some condition ∧
      Length.IsUnreadable condition digits ∧ cause = .digits digits := by
  unfold breakpoint?
  split
  · next h => simp [h]
  · next condition h =>
    rw [mapError_eq_error_iff]
    simp [h, Length.wholePixels?_eq_error_iff]

theorem breakpoint?_eq_some_iff {breakpoint : Nat} :
    r.breakpoint? = .ok (some breakpoint) ↔ ∃ condition, r.mediaCondition? = some condition ∧
      Length.wholePixels? condition = .ok (some breakpoint) := by
  unfold breakpoint?
  split
  · next h => simp [h]
  · next condition h => simp [h, mapError_eq_ok_iff]

theorem exceededBreakpoint_eq_error_iff :
    r.exceededBreakpoint = .error cause ↔ r.FailsWith cause := by
  unfold exceededBreakpoint
  dsimp only
  rw [bind_eq_error_iff, breakpoint?_eq_error_iff]
  constructor
  · rintro (⟨condition, digits, hc, h, rfl⟩ | ⟨found, hb, h⟩)
    · exact .breakpoint hc h
    · split at h
      · next breakpoint width pixels hw hp =>
        obtain ⟨condition, hc, hb⟩ := breakpoint?_eq_some_iff.1 hb
        rw [hw, Option.bind_some] at hp
        rcases Length.pixels?_cases hp with ⟨units, rfl⟩ | rfl
        · cases h
        · cases h
          exact .width ⟨condition, breakpoint, width, hc, hb, hw, hp⟩
      · cases h
  · rintro (⟨hc, h⟩ | ⟨condition, breakpoint, width, hc, hb, hw, hp⟩)
    · exact .inl ⟨_, _, hc, h, rfl⟩
    · refine .inr ⟨some breakpoint, breakpoint?_eq_some_iff.2 ⟨condition, hc, hb⟩, ?_⟩
      rw [hw, Option.bind_some, hp]
      rfl

end Rule

/-! ## Selectors -/

namespace Stylesheet

variable {sheet : Stylesheet} {s : Settings} {rules : List Rule} {r : Rule}
  {selector property value width : String} {media : Bool} {pixels : Nat} {cause : DigitError}

/-- The rule, in a media block or outside, gives the selector the width. -/
def GivesWidth (media : Bool) (selector width : String) (r : Rule) : Prop :=
  r.inMedia = media ∧ r.selector = selector ∧ r.value? "width" = some width

/-- The last width outside media blocks that is given to the selector and not left empty. -/
def LastBaseWidth (sheet : Stylesheet) (selector width : String) : Prop :=
  ∃ before r after, sheet.rules = before ++ r :: after ∧ GivesWidth false selector width r ∧
    width ≠ "" ∧ ∀ q ∈ after, ∀ w, GivesWidth false selector w q → w = ""

/-- The width is read, and of a whole number of pixels other than the given one. -/
def Deviates (pixels : Nat) (width : String) : Prop :=
  ∃ n, Length.wholePixels? width = .ok (some n) ∧ n ≠ pixels

/-- The width is read, and of no whole number of pixels other than the given one. -/
def Agrees (pixels : Nat) (width : String) : Prop :=
  ∃ number, Length.wholePixels? width = .ok number ∧ ∀ n, number = some n → n = pixels

/-- The widths of the selector cannot be compared: the last one outside media blocks is not read,
or one in a media block is not, and all those before it agree with the one outside. -/
inductive FailsUnder (sheet : Stylesheet) (selector : String) (cause : DigitError) : Prop
  | base {width : String} (hlast : sheet.LastBaseWidth selector width)
      (h : Length.IsUnreadable width cause)
  | media {base width : String} {pixels : Nat} {before after : List Rule} {r : Rule}
      (hlast : sheet.LastBaseWidth selector base)
      (hpixels : Length.wholePixels? base = .ok (some pixels))
      (hsplit : sheet.rules = before ++ r :: after)
      (hbefore : ∀ q ∈ before, ∀ w, GivesWidth true selector w q → Agrees pixels w)
      (hr : GivesWidth true selector width r) (h : Length.IsUnreadable width cause)

/-! ### Widths of a selector -/

/-- The width that a rule gives, if it is a rule of the selector that stands where it should and
does not leave its width empty. -/
def widthUnder? (media : Bool) (selector : String) (r : Rule) : Option String :=
  if r.inMedia = media ∧ r.selector = selector then r.given? "width" else none

theorem given?_eq_some_iff :
    r.given? property = some value ↔ r.value? property = some value ∧ value ≠ "" := by
  simp [Rule.given?, Option.filter_eq_some_iff]

theorem widthUnder?_eq_some_iff :
    widthUnder? media selector r = some width ↔ GivesWidth media selector width r ∧ width ≠ "" := by
  simp only [widthUnder?, Option.ite_none_right_eq_some, given?_eq_some_iff, GivesWidth, and_assoc]

theorem widthUnder?_eq_none_iff :
    widthUnder? media selector r = none ↔ ∀ w, GivesWidth media selector w r → w = "" := by
  simp only [Option.eq_none_iff_forall_ne_some, ne_eq, widthUnder?_eq_some_iff, not_and, not_not]

theorem widthsOf_filter {kind : Rule → Bool} (hkind : ∀ r, kind r ↔ r.inMedia = media)
    (rules : List Rule) (selector : String) :
    widthsOf (rules.filter kind) selector = rules.filterMap (widthUnder? media selector) := by
  rw [widthsOf, List.filter_filter, List.filterMap_filter]
  congr 1
  funext r
  simp only [widthUnder?, Bool.and_eq_true, decide_eq_true_eq, hkind, and_comm]

theorem widthsOf_baseRules (sheet : Stylesheet) (selector : String) :
    widthsOf sheet.baseRules selector = sheet.rules.filterMap (widthUnder? false selector) :=
  widthsOf_filter (fun r => by cases r.inMedia <;> simp) sheet.rules selector

theorem widthsOf_mediaRules (sheet : Stylesheet) (selector : String) :
    widthsOf sheet.mediaRules selector = sheet.rules.filterMap (widthUnder? true selector) :=
  widthsOf_filter (fun _ => Iff.rfl) sheet.rules selector

theorem getLast?_widthsOf_iff :
    (widthsOf sheet.baseRules selector).getLast? = some width ↔
      sheet.LastBaseWidth selector width := by
  rw [widthsOf_baseRules, getLast?_filterMap_eq_some_iff]
  simp only [widthUnder?_eq_some_iff, widthUnder?_eq_none_iff, LastBaseWidth, and_assoc]

theorem wholePixels?_empty : Length.wholePixels? "" = .ok none := rfl

theorem Deviates.ne_empty (h : Deviates pixels width) : width ≠ "" := by
  rintro rfl
  obtain ⟨n, hn, -⟩ := h
  cases wholePixels?_empty.symm.trans hn

theorem agrees_empty : Agrees pixels "" := ⟨none, wholePixels?_empty, fun _ h => nomatch h⟩

theorem Agrees.not_deviates (h : Agrees pixels width) : ¬ Deviates pixels width := by
  rintro ⟨n, hn, hne⟩
  obtain ⟨number, hnumber, hsame⟩ := h
  cases hnumber.symm.trans hn
  exact hne (hsame n rfl)

theorem ne_empty_of_isUnreadable (h : Length.IsUnreadable width cause) : width ≠ "" := by
  rintro rfl
  cases wholePixels?_empty.symm.trans (Length.wholePixels?_eq_error_iff.2 h)

/-- A property of the first width of a selector in a media block that those before it lack. -/
theorem exists_first_widthsOf_iff {P Q : String → Prop} (hP : P "") (hQ : ¬ Q "") :
    (∃ before width after, widthsOf sheet.mediaRules selector = before ++ width :: after ∧
        (∀ w ∈ before, P w) ∧ Q width) ↔
      ∃ before r after, sheet.rules = before ++ r :: after ∧
        (∀ q ∈ before, ∀ w, GivesWidth true selector w q → P w) ∧
        ∃ width, GivesWidth true selector width r ∧ Q width := by
  have hall (q : Rule) : (∀ w, widthUnder? true selector q = some w → P w) ↔
      ∀ w, GivesWidth true selector w q → P w := by
    simp only [widthUnder?_eq_some_iff, and_imp]
    refine forall₂_congr fun w _ => ⟨fun h => ?_, fun h _ => h⟩
    by_cases hw : w = ""
    · exact hw ▸ hP
    · exact h hw
  have hone (q : Rule) : (∃ w, widthUnder? true selector q = some w ∧ Q w) ↔
      ∃ w, GivesWidth true selector w q ∧ Q w := by
    simp only [widthUnder?_eq_some_iff, and_assoc]
    refine exists_congr fun w => and_congr_right fun _ => and_iff_right_of_imp ?_
    rintro hw rfl
    exact hQ hw
  rw [widthsOf_mediaRules, exists_first_filterMap_iff]
  simp only [hall, hone]

/-! ### What is compared -/

theorem basePixels?_eq_some_iff :
    sheet.basePixels? selector = .ok (some pixels) ↔
      ∃ base, sheet.LastBaseWidth selector base ∧
        Length.wholePixels? base = .ok (some pixels) := by
  simp only [← getLast?_widthsOf_iff]
  unfold basePixels?
  split
  · next h => simp [h]
  · next base h => simp [h]

theorem basePixels?_eq_error_iff :
    sheet.basePixels? selector = .error cause ↔
      ∃ base, sheet.LastBaseWidth selector base ∧ Length.IsUnreadable base cause := by
  simp only [← getLast?_widthsOf_iff, ← Length.wholePixels?_eq_error_iff]
  unfold basePixels?
  split
  · next h => simp [h]
  · next base h => simp [h]

/-- Whether the whole pixels of a width differ from the given ones, if they can be read. -/
def differs (pixels : Nat) (width : String) : Except DigitError Bool :=
  return (← Length.wholePixels? width).any (· ≠ pixels)

theorem differs_eq_error_iff :
    differs pixels width = .error cause ↔ Length.IsUnreadable width cause := by
  rw [differs, bind_pure_eq_error_iff, Length.wholePixels?_eq_error_iff]

theorem differs_eq_true_iff : differs pixels width = .ok true ↔ Deviates pixels width := by
  rw [differs, bind_eq_ok_iff]
  constructor
  · rintro ⟨number, hnumber, h⟩
    obtain ⟨n, hn, hne⟩ := Option.any_eq_true _ _ |>.1 (Except.ok.inj h)
    exact ⟨n, hn ▸ hnumber, of_decide_eq_true hne⟩
  · rintro ⟨n, hn, hne⟩
    exact ⟨some n, hn, congrArg Except.ok (decide_eq_true hne)⟩

theorem differs_eq_false_iff : differs pixels width = .ok false ↔ Agrees pixels width := by
  rw [differs, bind_eq_ok_iff]
  refine exists_congr fun number => and_congr_right fun _ => ?_
  cases number with
  | none => simp [pure, Except.pure]
  | some n => simp [pure, Except.pure]

theorem unstableWidth?_of_basePixels? (h : sheet.basePixels? selector = .ok (some pixels)) :
    sheet.unstableWidth? selector =
      (widthsOf sheet.mediaRules selector).findM? (differs pixels) := by
  rw [unstableWidth?, h]
  rfl

theorem unstableWidth?_eq_error_iff :
    sheet.unstableWidth? selector = .error cause ↔ sheet.FailsUnder selector cause := by
  have hmedia {pixels : Nat} (h : sheet.basePixels? selector = .ok (some pixels)) :
      sheet.unstableWidth? selector = .error cause ↔
        ∃ before r after, sheet.rules = before ++ r :: after ∧
          (∀ q ∈ before, ∀ w, GivesWidth true selector w q → Agrees pixels w) ∧
          ∃ width, GivesWidth true selector width r ∧ Length.IsUnreadable width cause := by
    rw [unstableWidth?_of_basePixels? h, findM?_eq_error_iff]
    simp only [differs_eq_false_iff, differs_eq_error_iff]
    exact exists_first_widthsOf_iff agrees_empty fun h => ne_empty_of_isUnreadable h rfl
  constructor
  · intro h
    rcases bind_eq_error_iff.1 h with hbase | ⟨found, hbase, hfound⟩
    · obtain ⟨base, hlast, hbase⟩ := basePixels?_eq_error_iff.1 hbase
      exact .base hlast hbase
    · cases found with
      | none => cases hfound
      | some pixels =>
        obtain ⟨base, hlast, hpixels⟩ := basePixels?_eq_some_iff.1 hbase
        obtain ⟨before, r, after, hsplit, hbefore, width, hr, hwidth⟩ := (hmedia hbase).1 h
        exact .media hlast hpixels hsplit hbefore hr hwidth
  · rintro (⟨hlast, hbase⟩ | ⟨hlast, hpixels, hsplit, hbefore, hr, hwidth⟩)
    · exact bind_eq_error_iff.2 (.inl (basePixels?_eq_error_iff.2 ⟨_, hlast, hbase⟩))
    · have hbase := basePixels?_eq_some_iff.2 ⟨_, hlast, hpixels⟩
      exact (hmedia hbase).2 ⟨_, _, _, hsplit, hbefore, _, hr, hwidth⟩

theorem unstableWidths_eq_error_iff :
    sheet.unstableWidths s = .error cause ↔
      FirstFails sheet.FailsUnder (sheet.mediaSelectors s) cause := by
  have hone (selector : String) (e : DigitError) :
      (do return (← sheet.unstableWidth? selector).map (unstableFinding selector) :
        Except DigitError (Option Finding)) = .error e ↔ sheet.FailsUnder selector e := by
    rw [bind_pure_eq_error_iff, unstableWidth?_eq_error_iff]
  rw [unstableWidths, bind_pure_eq_error_iff, mapM_eq_error_iff hone]

end Stylesheet

/-! ## Checks -/

variable {s : Settings} {sheet : Stylesheet} {check : Check} {checks : List Check}
  {cause : PixelError}

namespace Check

/-- The check fails with the cause: the breakpoint check at the first rule that it fails at, of
those that are not ignored, and the check of widths in media blocks under the first selector that
it fails under. -/
inductive FailsWith (s : Settings) (sheet : Stylesheet) : Check → PixelError → Prop
  | breakpoint {cause : PixelError}
      (h : FirstFails Rule.FailsWith (activeRules s sheet) cause) :
      FailsWith s sheet .breakpointFixedWidth cause
  | mediaWidth {cause : DigitError}
      (h : FirstFails sheet.FailsUnder (sheet.mediaSelectors s) cause) :
      FailsWith s sheet .mediaWidthInstability (.digits cause)

theorem run_breakpoint_eq_error_iff :
    run s sheet .breakpointFixedWidth = .error cause ↔
      FirstFails Rule.FailsWith (activeRules s sheet) cause := by
  rw [run, bind_pure_eq_error_iff,
    mapM_eq_error_iff fun _ _ => Rule.exceededBreakpoint_eq_error_iff]

theorem run_mediaWidth_eq_error_iff :
    run s sheet .mediaWidthInstability = .error cause ↔
      ∃ digits, FirstFails sheet.FailsUnder (sheet.mediaSelectors s) digits ∧
        cause = .digits digits := by
  rw [run, mapError_eq_error_iff]
  simp only [Stylesheet.unstableWidths_eq_error_iff]

/-- Only the two checks that compare numbers of pixels can fail. -/
theorem run_eq_error_iff : check.run s sheet = .error cause ↔ check.FailsWith s sheet cause := by
  constructor
  · intro h
    cases check with
    | breakpointFixedWidth => exact .breakpoint (run_breakpoint_eq_error_iff.1 h)
    | mediaWidthInstability =>
      obtain ⟨digits, hfirst, rfl⟩ := run_mediaWidth_eq_error_iff.1 h
      exact .mediaWidth hfirst
    | _ => cases h
  · rintro (h | h)
    · exact run_breakpoint_eq_error_iff.2 h
    · exact run_mediaWidth_eq_error_iff.2 ⟨_, h, rfl⟩

end Check

/-- Without media blocks there is nothing to compare. -/
theorem Check.not_failsWith_of_no_media (h : ∀ r ∈ sheet.rules, r.inMedia = false) :
    ¬ check.FailsWith s sheet cause := by
  rintro (⟨before, r, after, hsplit, -, hr⟩ | ⟨before, selector, after, hsplit, -, -⟩)
  · have hmem : r ∈ activeRules s sheet := by simp [hsplit]
    have hnone : r.mediaCondition? = none := by
      simpa [Rule.inMedia] using h r (List.mem_filter.1 hmem).1
    rcases hr with ⟨hcondition, -⟩ | ⟨_, _, _, hcondition, -⟩ <;>
      exact nomatch hnone.symm.trans hcondition
  · have hmedia : sheet.mediaRules = [] :=
      List.filter_eq_nil_iff.2 fun r hr => by simp [h r hr]
    have hnil : sheet.mediaSelectors s = [] := by
      rw [Stylesheet.mediaSelectors, hmedia]
      rfl
    exact List.append_ne_nil_of_right_ne_nil _ (List.cons_ne_nil _ _) (hsplit.symm.trans hnil)

/-- Several checks fail as the first of them that fails. -/
theorem detect_eq_error_iff :
    detect s sheet checks = .error cause ↔ FirstFails (Check.FailsWith s sheet) checks cause := by
  refine mapM_eq_error_iff fun check e => ?_
  rw [bind_pure_eq_error_iff, Check.run_eq_error_iff]

theorem exists_detect_of_no_media (h : ∀ r ∈ sheet.rules, r.inMedia = false) :
    ∃ found, detect s sheet checks = .ok found := by
  refine (exists_eq_ok_iff fun _ => detect_eq_error_iff).2 fun cause => ?_
  rintro ⟨before, check, after, -, -, hcheck⟩
  exact Check.not_failsWith_of_no_media h hcheck

end Reflow
