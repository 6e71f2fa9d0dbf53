import Reflow.Proofs.Check.Disagreements
import Reflow.Proofs.Check.Failures
import Reflow.Proofs.Length.FirstNumbers

/-!
# Widths in media blocks

One check compares the widths of a selector in media blocks with the last one outside. It fails as a
whole where a width that it comes to is not read; else it finds the first width that deviates.

* `Stylesheet.IsUnstable`: a width in a media block deviates from the last one outside.
* `Check.unstableWidths_exact`: which selectors are found, with which width and in which order, and
  when the check fails.
* `Check.unstableWidths_unread`: a width of too many digits under one selector, and nothing is found
  under another one.
-/

namespace Reflow

open Stylesheet

variable {s : Settings} {sheet : Stylesheet} {r : Rule} {selector width : String} {pixels : Nat}

namespace Stylesheet

/-- The first width in a media block that is given to the selector and deviates. Those before it are
read and agree. -/
def FirstDeviation (sheet : Stylesheet) (selector : String) (pixels : Nat) (width : String) :
    Prop :=
  ∃ before r after, sheet.rules = before ++ r :: after ∧
    (∀ q ∈ before, ∀ w, GivesWidth true selector w q → Agrees pixels w) ∧
    GivesWidth true selector width r ∧ Deviates pixels width

/-- The selector is last given a whole number of pixels outside media blocks, and a width that
deviates from them in a media block. -/
def IsUnstable (sheet : Stylesheet) (selector : String) (pixels : Nat) : Prop :=
  (∃ width, sheet.LastBaseWidth selector width ∧
      Length.wholePixels? width = .ok (some pixels)) ∧
    ∃ r ∈ sheet.rules, ∃ width, GivesWidth true selector width r ∧ Deviates pixels width

theorem findM?_differs_iff :
    (widthsOf sheet.mediaRules selector).findM? (differs pixels) = .ok (some width) ↔
      sheet.FirstDeviation selector pixels width := by
  simp only [findM?_eq_some_iff, differs_eq_false_iff, differs_eq_true_iff]
  rw [exists_first_widthsOf_iff agrees_empty fun h => h.1.ne_empty rfl]
  refine exists_congr fun before => exists_congr fun r => exists_congr fun after =>
    and_congr_right fun _ => and_congr_right fun _ => ?_
  constructor
  · rintro ⟨w, hr, hdeviates, rfl⟩
    exact ⟨hr, hdeviates⟩
  · rintro ⟨hr, hdeviates⟩
    exact ⟨width, hr, hdeviates, rfl⟩

theorem unstableWidth?_eq_some_iff :
    sheet.unstableWidth? selector = .ok (some width) ↔
      ∃ pixels, sheet.basePixels? selector = .ok (some pixels) ∧
        sheet.FirstDeviation selector pixels width := by
  constructor
  · intro h
    obtain ⟨found, hbase, hfound⟩ := bind_eq_ok_iff.1 h
    cases found with
    | none => cases hfound
    | some pixels =>
      rw [unstableWidth?_of_basePixels? hbase, findM?_differs_iff] at h
      exact ⟨pixels, hbase, h⟩
  · rintro ⟨pixels, hbase, hfirst⟩
    rwa [unstableWidth?_of_basePixels? hbase, findM?_differs_iff]

theorem FirstDeviation.isUnstable (h : sheet.FirstDeviation selector pixels width)
    (hbase : sheet.basePixels? selector = .ok (some pixels)) :
    sheet.IsUnstable selector pixels := by
  obtain ⟨before, r, after, hsplit, -, hr, hdeviates⟩ := h
  have hmem : r ∈ sheet.rules := by
    rw [hsplit]
    exact List.mem_append_right _ List.mem_cons_self
  exact ⟨basePixels?_eq_some_iff.1 hbase, r, hmem, width, hr, hdeviates⟩

/-- Where the widths of an unstable selector can be compared, the search comes to one that
deviates. -/
theorem exists_firstDeviation (h : sheet.IsUnstable selector pixels)
    (hok : ∀ cause, ¬ sheet.FailsUnder selector cause) :
    ∃ width, sheet.unstableWidth? selector = .ok (some width) ∧
      sheet.FirstDeviation selector pixels width := by
  obtain ⟨hbase, r, hr, width, hwidth, hdeviates⟩ := h
  have hbase := basePixels?_eq_some_iff.2 hbase
  obtain ⟨found, hfound⟩ := (exists_eq_ok_iff fun _ => unstableWidth?_eq_error_iff).2 hok
  have hsearch := hfound
  rw [unstableWidth?_of_basePixels? hbase] at hsearch
  cases found with
  | some first => exact ⟨first, hfound, findM?_differs_iff.1 hsearch⟩
  | none =>
    have hmem : width ∈ widthsOf sheet.mediaRules selector := by
      rw [widthsOf_mediaRules]
      exact List.mem_filterMap.2 ⟨r, hr, widthUnder?_eq_some_iff.2 ⟨hwidth, hdeviates.ne_empty⟩⟩
    have hagrees := differs_eq_false_iff.1 (findM?_eq_none_iff.1 hsearch width hmem)
    exact absurd hdeviates hagrees.not_deviates

/-- Whether a rule in a media block has a width that is not left empty. -/
def givesMediaWidth (r : Rule) : Bool := r.inMedia && (r.given? "width").isSome

theorem mediaSelectors_eq (sheet : Stylesheet) (s : Settings) :
    sheet.mediaSelectors s =
      selectorsOf (sheet.rules.filter fun r => givesMediaWidth r && !s.ignores r.selector) := by
  have hkind : (fun r : Rule => ((r.given? "width").isSome && !s.ignores r.selector) && r.inMedia) =
      fun r => givesMediaWidth r && !s.ignores r.selector := by
    funext r
    rw [givesMediaWidth]
    cases r.inMedia <;> simp
  rw [mediaSelectors, mediaRules, List.filter_filter, hkind]

theorem mem_mediaSelectors (hactive : s.ignores selector = false) (hr : r ∈ sheet.rules)
    (hwidth : GivesWidth true selector width r) (hne : width ≠ "") :
    selector ∈ sheet.mediaSelectors s := by
  obtain ⟨hmedia, hselector, hvalue⟩ := hwidth
  have hgiven : r.given? "width" = some width := given?_eq_some_iff.2 ⟨hvalue, hne⟩
  rw [mediaSelectors_eq]
  refine mem_selectorsOf_iff.2 ⟨r, List.mem_filter.2 ⟨hr, ?_⟩, hselector⟩
  simp [givesMediaWidth, hmedia, hgiven, hselector, hactive]

theorem IsUnstable.mem_mediaSelectors (h : sheet.IsUnstable selector pixels)
    (hactive : s.ignores selector = false) : selector ∈ sheet.mediaSelectors s := by
  obtain ⟨-, r, hr, width, hwidth, hdeviates⟩ := h
  exact Stylesheet.mem_mediaSelectors hactive hr hwidth hdeviates.ne_empty

theorem ignores_of_mem_mediaSelectors (h : selector ∈ sheet.mediaSelectors s) :
    s.ignores selector = false := by
  rw [mediaSelectors_eq] at h
  obtain ⟨r, hr, rfl⟩ := mem_selectorsOf_iff.1 h
  have hactive : s.ignores r.selector = false := by
    simpa using (Bool.and_eq_true_iff.1 (List.mem_filter.1 hr).2).2
  exact hactive

/-- What is found under the selectors with widths in media blocks. -/
def foundUnstable (sheet : Stylesheet) (s : Settings) : List Finding :=
  (sheet.mediaSelectors s).filterMap fun selector =>
    (sheet.foundWidth? selector).map (unstableFinding selector)

theorem filter_foundUnstable (hactive : s.ignores selector = false) :
    (sheet.foundUnstable s).filter (·.selector = selector) =
      ((sheet.foundWidth? selector).map (unstableFinding selector)).toList := by
  refine filter_filterMap_of_nodup (nodup_selectorsOf _) (fun k _ f hf => ?_) fun hnot => ?_
  · obtain ⟨width, -, rfl⟩ := Option.map_eq_some_iff.1 hf
    rfl
  · rw [Option.map_eq_none_iff, Option.eq_none_iff_forall_ne_some]
    intro width hwidth
    obtain ⟨pixels, hbase, hfirst⟩ :=
      unstableWidth?_eq_some_iff.1 (foundWidth?_eq_some_iff.1 hwidth)
    exact hnot ((hfirst.isUnstable hbase).mem_mediaSelectors hactive)

theorem ignores_of_mem_foundUnstable {f : Finding} (h : f ∈ sheet.foundUnstable s) :
    s.ignores f.selector = false := by
  obtain ⟨selector, hselector, hf⟩ := List.mem_filterMap.1 h
  obtain ⟨width, -, rfl⟩ := Option.map_eq_some_iff.1 hf
  exact ignores_of_mem_mediaSelectors hselector

/-- Where a selector is not ignored, its first width in a media block is that of a rule that is not
passed over. -/
theorem firstPlace_active (hactive : s.ignores selector = false) :
    sheet.firstPlace (fun r => givesMediaWidth r && !s.ignores r.selector) selector =
      sheet.firstPlace givesMediaWidth selector := by
  rw [firstPlace, firstPlace]
  congr 1
  funext r
  by_cases hselector : r.selector = selector
  · simp [hselector, hactive]
  · simp [hselector]

theorem pairwise_foundUnstable (sheet : Stylesheet) (s : Settings) :
    (sheet.foundUnstable s).Pairwise fun f g =>
      sheet.firstPlace givesMediaWidth f.selector <
        sheet.firstPlace givesMediaWidth g.selector := by
  have hplaces : (sheet.foundUnstable s).Pairwise fun f g =>
      sheet.firstPlace (fun r => givesMediaWidth r && !s.ignores r.selector) f.selector <
        sheet.firstPlace (fun r => givesMediaWidth r && !s.ignores r.selector) g.selector := by
    rw [foundUnstable, mediaSelectors_eq]
    refine (pairwise_selectorsOf sheet _).filterMap _ fun j k hlt f hf g hg => ?_
    obtain ⟨v, -, rfl⟩ := Option.map_eq_some_iff.1 hf
    obtain ⟨w, -, rfl⟩ := Option.map_eq_some_iff.1 hg
    exact hlt
  refine hplaces.imp_of_mem fun hf hg hlt => ?_
  rwa [firstPlace_active (ignores_of_mem_foundUnstable hf),
    firstPlace_active (ignores_of_mem_foundUnstable hg)] at hlt

end Stylesheet

/-- If the check fails under no selector with widths in media blocks, a selector is found exactly if
it is not ignored and its width is unstable, once, with the first width in a media block that
deviates from the last one outside; the findings come in the order of the first widths that media
blocks give to their selectors. Else the check fails as it does under the first such selector, and
nothing is found under any. -/
theorem Check.unstableWidths_exact (s : Settings) (sheet : Stylesheet) :
    ((∀ selector ∈ sheet.mediaSelectors s, ∀ cause, ¬ sheet.FailsUnder selector cause) →
      ∃ found, Check.mediaWidthInstability.run s sheet = .ok found ∧
        (∀ selector pixels, s.ignores selector = false → sheet.IsUnstable selector pixels →
          ∃ width, sheet.FirstDeviation selector pixels width ∧
            found.filter (·.selector = selector) = [unstableFinding selector width]) ∧
        (∀ selector, s.ignores selector = true ∨ (∀ pixels, ¬ sheet.IsUnstable selector pixels) →
          found.filter (·.selector = selector) = []) ∧
        found.Pairwise fun f g => sheet.firstPlace givesMediaWidth f.selector <
          sheet.firstPlace givesMediaWidth g.selector) ∧
      ∀ cause, Check.mediaWidthInstability.run s sheet = .error cause ↔
        ∃ digits, FirstFails sheet.FailsUnder (sheet.mediaSelectors s) digits ∧
          cause = .digits digits := by
  refine ⟨fun hok => ?_, fun _ => run_mediaWidth_eq_error_iff⟩
  have hwidths (selector : String) (h : selector ∈ sheet.mediaSelectors s) :
      ∃ width, sheet.unstableWidth? selector = .ok width :=
    (exists_eq_ok_iff fun _ => unstableWidth?_eq_error_iff).2 (hok selector h)
  have hrun : Check.mediaWidthInstability.run s sheet = .ok (sheet.foundUnstable s) :=
    mapError_eq_ok_iff.2 (unstableWidths_of_ok hwidths)
  refine ⟨_, hrun, ?_, ?_, pairwise_foundUnstable sheet s⟩
  · intro selector pixels hactive hunstable
    obtain ⟨width, hwidth, hfirst⟩ :=
      exists_firstDeviation hunstable (hok selector (hunstable.mem_mediaSelectors hactive))
    refine ⟨width, hfirst, ?_⟩
    rw [filter_foundUnstable hactive, foundWidth?_eq_some_iff.2 hwidth]
    rfl
  · intro selector hnone
    by_cases hactive : s.ignores selector = false
    · rw [filter_foundUnstable hactive]
      cases hwidth : sheet.foundWidth? selector with
      | none => rfl
      | some width =>
        obtain ⟨pixels, hbase, hfirst⟩ :=
          unstableWidth?_eq_some_iff.1 (foundWidth?_eq_some_iff.1 hwidth)
        rcases hnone with hignored | hstable
        · simp [hactive] at hignored
        · exact absurd (hfirst.isUnstable hbase) (hstable pixels)
    · refine List.filter_eq_nil_iff.2 fun f hf hselector => hactive ?_
      rw [← of_decide_eq_true hselector]
      exact ignores_of_mem_foundUnstable hf

/-- A width in percent does not deviate, and a selector that is ignored is passed over. -/
theorem Check.unstableWidths_exact_percent :
    let s : Settings := { Settings.standard with ignored := [".b"] }
    let media : AtRule := ⟨"media", "print"⟩
    let sheet : Stylesheet := ⟨[⟨".b", [("width", "9px")], none⟩, ⟨".a", [("width", "8px")], none⟩,
      ⟨".a", [("width", "9px")], none⟩, ⟨".a", [("width", "")], none⟩,
      ⟨".b", [("width", "7px")], some media⟩, ⟨".a", [("width", "50%")], some media⟩,
      ⟨".a", [("width", "8 px")], some media⟩, ⟨".a", [("width", "6px")], some media⟩]⟩
    ((∀ selector ∈ sheet.mediaSelectors s, ∀ cause, ¬ sheet.FailsUnder selector cause) ∧
        s.ignores ".a" = false ∧ sheet.IsUnstable ".a" 9 ∧ s.ignores ".b" = true) ∧
      ∃ found width, Check.mediaWidthInstability.run s sheet = .ok found ∧
        sheet.FirstDeviation ".a" 9 width ∧
        found.filter (·.selector = ".a") = [unstableFinding ".a" width] ∧
        found.filter (·.selector = ".b") = [] ∧ found = [unstableFinding ".a" "8 px"] := by
  intro s media sheet
  have ha : s.ignores ".a" = false := by decide
  have hb : s.ignores ".b" = true := by decide
  have hwidth : sheet.unstableWidth? ".a" = .ok (some "8 px") := by decide +kernel
  have hselectors : sheet.mediaSelectors s = [".a"] := by decide +kernel
  have hok : ∀ selector ∈ sheet.mediaSelectors s, ∀ cause, ¬ sheet.FailsUnder selector cause := by
    rw [hselectors]
    refine List.forall_mem_singleton.2 ?_
    exact (exists_eq_ok_iff fun _ => unstableWidth?_eq_error_iff).1 ⟨_, hwidth⟩
  have hunstable : sheet.IsUnstable ".a" 9 := by
    obtain ⟨pixels, hbase, hfirst⟩ := unstableWidth?_eq_some_iff.1 hwidth
    have hnine : sheet.basePixels? ".a" = .ok (some 9) := by decide +kernel
    cases hbase.symm.trans hnine
    exact hfirst.isUnstable hnine
  obtain ⟨hexact, -⟩ := unstableWidths_exact s sheet
  obtain ⟨found, hrun, hfound, hnone, -⟩ := hexact hok
  obtain ⟨width, hfirst, hfilter⟩ := hfound ".a" 9 ha hunstable
  have hall : Check.mediaWidthInstability.run s sheet = .ok [unstableFinding ".a" "8 px"] := by
    decide +kernel
  have hfound : found = [unstableFinding ".a" "8 px"] := Except.ok.inj (hrun.symm.trans hall)
  exact ⟨⟨hok, ha, hunstable, hb⟩, found, width, hrun, hfirst, hfilter, hnone ".b" (.inl hb),
    hfound⟩

namespace Stylesheet

/-! ## A width that is not read -/

/-- A selector of ten pixels that has twenty in a media block, and another one of the given width
that has half of its container there. -/
def withWidth (width : String) : Stylesheet :=
  let media : AtRule := ⟨"media", "(max-width: 9px)"⟩
  ⟨[⟨".a", [("width", "10px")], none⟩, ⟨".b", [("width", width)], none⟩,
    ⟨".a", [("width", "20px")], some media⟩, ⟨".b", [("width", "50%")], some media⟩]⟩

theorem basePixels?_withWidth (width : String) :
    (withWidth width).basePixels? ".a" = .ok (some 10) := by
  have hten : Length.wholePixels? "10px" = .ok (some 10) := by decide +kernel
  exact hten

theorem unstableWidth?_withWidth (width : String) :
    (withWidth width).unstableWidth? ".a" = .ok (some "20px") := by
  have hdiffers : differs 10 "20px" = .ok true := by decide +kernel
  have hmedia : widthsOf (withWidth width).mediaRules ".a" = ["20px"] := rfl
  rw [unstableWidth?_of_basePixels? (basePixels?_withWidth width), hmedia, findM?_cons, hdiffers]
  rfl

theorem mediaSelectors_withWidth (width : String) :
    (withWidth width).mediaSelectors .standard = [".a", ".b"] := by
  have hmedia : (withWidth width).mediaRules = (withWidth "").mediaRules := rfl
  rw [mediaSelectors, hmedia]
  decide

theorem failsUnder_withWidth {cause : Text.DigitError} (h : Length.IsUnreadable width cause) :
    (withWidth width).FailsUnder ".b" cause := by
  have hne : width ≠ "" := ne_empty_of_isUnreadable h
  refine .base ⟨[_], _, _, rfl, ⟨rfl, rfl, rfl⟩, hne, ?_⟩ h
  -- the rules behind it stand in a media block
  intro q hq w hw
  have hmedia : ∀ q ∈ (withWidth "").rules.drop 2, q.inMedia = true := by decide
  cases (hmedia q hq).symm.trans hw.1

/-- As many nines as are given, in pixels. -/
def ninePixels (count : Nat) : String := String.ofList (List.replicate count '9' ++ ['p', 'x'])

theorem isUnreadable_ninePixels {count : Nat} (h : Text.digitLimit < count) :
    Length.IsUnreadable (ninePixels count) (.unreadable count) := by
  let number : Numeral := ⟨List.replicate count '9', []⟩
  have hnumber : Length.IsPixelNumber number (ninePixels count).toList := by
    refine ⟨⟨?_, ?_, List.forall_mem_nil _⟩, 'p', 'x', .inl rfl, .inl rfl, ?_⟩
    · exact List.ne_nil_of_length_pos (by rw [List.length_replicate]; omega)
    · intro c hc
      rw [List.eq_of_mem_replicate hc]
      rfl
    · rw [ninePixels, String.toList_ofList]
      simp [number, Numeral.text]
  have hfirst := Length.isFirst_of_lead id (List.forall_mem_nil _) hnumber.isSpaced []
  rw [List.nil_append, List.append_nil] at hfirst
  have hlength : number.lastDigits.length = count := List.length_replicate
  refine ⟨number.lastDigits, Length.wholeDigits?_of_isFirst hfirst, ?_, ?_⟩
  · rwa [hlength]
  · rw [hlength]

end Stylesheet

/-- A width of 4301 digits under one selector is not read, and the unstable width of the other one
is not found either. -/
theorem Check.unstableWidths_unread :
    let sheet := Stylesheet.withWidth (Stylesheet.ninePixels 4301)
    (Settings.standard.ignores ".a" = false ∧ sheet.IsUnstable ".a" 10) ∧
      Check.mediaWidthInstability.run .standard sheet = .error (.digits (.unreadable 4301)) := by
  intro sheet
  have hunread := isUnreadable_ninePixels (show Text.digitLimit < 4301 by decide)
  have hwidth : sheet.unstableWidth? ".a" = .ok (some "20px") := unstableWidth?_withWidth _
  obtain ⟨pixels, hbase, hfirst⟩ := unstableWidth?_eq_some_iff.1 hwidth
  cases hbase.symm.trans (basePixels?_withWidth (ninePixels 4301))
  refine ⟨⟨by decide, hfirst.isUnstable hbase⟩, ?_⟩
  refine run_mediaWidth_eq_error_iff.2 ⟨_, ⟨[".a"], ".b", [], mediaSelectors_withWidth _, ?_, ?_⟩,
    rfl⟩
  · refine List.forall_mem_singleton.2 ?_
    exact (exists_eq_ok_iff fun _ => unstableWidth?_eq_error_iff).1 ⟨_, hwidth⟩
  · exact failsUnder_withWidth hunread

end Reflow
