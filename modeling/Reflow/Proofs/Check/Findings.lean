import Reflow.Analysis
import Reflow.Proofs.LineScan.Matches
import Reflow.Proofs.Outcomes

/-!
# What findings are about

* `Rule.Declares`: a finding about a declaration of a rule, of a property that its kind concerns;
  kinds that speak of pixels are about fixed values. Every check of a single rule finds nothing else.
* `Rule.Finds`, `Check.finds_of_mem_run`: the findings of a check come from one rule or from one of
  the checks of the whole stylesheet.
* `Finding.IsWorded`: a finding with standard wording, as all findings of all checks are
  (`isWorded_of_mem_run`).
* `Rule.Backs`: the rule has the declaration that a finding is about. Every finding but the mix of
  box models is backed by a rule (`exists_backs_of_mem_run`).
* `mediaConflicts_eq_nil`: rules under selectors of their own do not disagree, and no other check
  looks at declarations without a name (`property_ne_of_mem_run`).
-/

namespace Reflow

open Text

/-- Whether findings of the kind are about fixed values. -/
def Kind.isFixedKind : Kind → Bool
  | fixedWidth | fixedHeight | fixedBoxDimensions | fixedMinDimension | horizontalOverflowRisk
  | cumulativeHorizontalOverflow | nowrapFixedWidth | rigidFlexItem | rigidGridTracks
  | absoluteRigidity | fixedPixelSpacing => true
  | _ => false

/-- Whether a finding of the kind in a single rule may be about the property. The mix of box models
and the instability of media queries are of no single rule. -/
def Kind.concerns : Kind → String → Bool
  | fixedWidth, p | fixedBoxDimensions, p | cumulativeHorizontalOverflow, p
  | viewportWidthOverflow, p | widthExceedsBreakpoint, p => p = "width"
  | fixedHeight, p => p = "height"
  | fixedMinDimension, p => ["min-width", "min-height"].contains p
  | horizontalOverflowRisk, p | nowrapFixedWidth, p => ["width", "min-width"].contains p
  | bodyOverflowMasking, p => p = "overflow-x"
  | nonWrappingFlexBasis, p => ["flex-basis", "flex"].contains p
  | flexWithoutWrap, p => p = "display"
  | rigidFlexItem, p => p = "flex-basis"
  | rigidGridTracks, p => Rule.trackProperties.contains p
  | absoluteRigidity, p => Rule.offsetProperties.contains p
  | importantLayout, p => Rule.isLayoutProperty p
  | fixedPixelSpacing, p => Rule.isSpacingProperty p
  | mixedBoxSizing, _ | mediaQueryInstability, _ | other _, _ => false

namespace Kind

variable {kind : Kind} {property : String}

theorem ne_of_concerns (h : kind.concerns property) : kind ≠ .mixedBoxSizing := by
  rintro rfl
  cases h

theorem mem_all_of_concerns (h : kind.concerns property) : kind ∈ all := by
  cases kind with
  | other text => cases h
  | _ => decide

/-- No kind concerns a property without a name. -/
theorem property_ne_of_concerns (h : kind.concerns property) : property ≠ "" := by
  rintro rfl
  cases kind with
  | other text => cases h
  | _ => exact absurd h (by decide)

end Kind

namespace Rule

variable {r : Rule} {s : Settings} {f : Finding} {kind : Kind} {property value : String}

/-- A finding about a declaration of the rule: of a property that the kind concerns, with a fixed
value if the kind asks for one. -/
def Declares (r : Rule) (f : Finding) : Prop :=
  ∃ kind, ∃ d ∈ r.declarations, kind.concerns d.1 ∧ (kind.isFixedKind → Length.isFixed d.2) ∧
    f = r.finding kind d.1 d.2

theorem mem_of_value? (h : r.value? property = some value) : (property, value) ∈ r.declarations :=
  mem_of_lookup h

theorem fixed?_eq_some_iff :
    r.fixed? property = some value ↔ r.value? property = some value ∧ Length.isFixed value :=
  Option.filter_eq_some_iff

theorem fixed?_eq_none_iff :
    r.fixed? property = none ↔
      ∀ value, r.value? property = some value → Length.isFixed value = false := by
  rw [fixed?, Option.filter_eq_none_iff]
  simp only [Bool.not_eq_true]

/-- The value of the property has the word in it, up to letter case. -/
def Mentions (r : Rule) (property word : String) : Prop :=
  ∃ value, r.value? property = some value ∧ word.toList <:+: lower value.toList

theorem isSome_mentioning?_iff {word : String} :
    (r.mentioning? property word).isSome ↔ r.Mentions property word := by
  simp only [Option.isSome_iff_exists, mentioning?, Option.filter_eq_some_iff, mentions,
    contains_iff_infix, Mentions]

theorem mentioning?_eq_some {word : String} (h : r.mentioning? property word = some value) :
    r.value? property = some value :=
  (Option.filter_eq_some_iff.1 h).1

theorem firstFixed?_eq_some {properties : List String}
    (h : r.firstFixed? properties = some (property, value)) :
    property ∈ properties ∧ r.fixed? property = some value := by
  obtain ⟨p, hp, h⟩ := List.exists_of_findSome?_eq_some h
  obtain ⟨v, hv, he⟩ := Option.map_eq_some_iff.1 h
  cases he
  exact ⟨hp, hv⟩

theorem Declares.of_value (h : r.value? property = some value) (hconcerns : kind.concerns property)
    (hk : kind.isFixedKind = false) : r.Declares (r.finding kind property value) :=
  ⟨kind, _, mem_of_value? h, hconcerns, fun h => absurd h (by simp [hk]), rfl⟩

theorem Declares.of_fixed (h : r.fixed? property = some value)
    (hconcerns : kind.concerns property) : r.Declares (r.finding kind property value) :=
  ⟨kind, _, mem_of_value? (fixed?_eq_some_iff.1 h).1, hconcerns,
    fun _ => (fixed?_eq_some_iff.1 h).2, rfl⟩

theorem Declares.of_firstFixed {properties : List String} {d : String × String}
    (h : r.firstFixed? properties = some d) (hconcerns : ∀ p ∈ properties, kind.concerns p) :
    r.Declares (r.finding kind d.1 d.2) := by
  obtain ⟨hmem, hfixed⟩ := firstFixed?_eq_some h
  exact .of_fixed hfixed (hconcerns _ hmem)

theorem declares_fixedDimensions (h : f ∈ r.fixedDimensions s) : r.Declares f := by
  simp only [fixedDimensions, List.mem_append, Option.mem_toList,
    Option.map_eq_some_iff, Option.filter_eq_some_iff, List.mem_ite_nil_right] at h
  rcases h with ((⟨v, ⟨hv, -⟩, rfl⟩ | ⟨v, ⟨hv, -⟩, rfl⟩) | ⟨-, v, hv, rfl⟩) | ⟨d, hd, rfl⟩
  · exact .of_fixed hv (by decide)
  · exact .of_fixed hv (by decide)
  · exact .of_fixed hv (by decide)
  · exact .of_firstFixed hd (by decide)

theorem declares_horizontalOverflow (h : f ∈ r.horizontalOverflow) : r.Declares f := by
  simp only [horizontalOverflow, List.mem_append, Option.mem_toList,
    Option.map_eq_some_iff, List.mem_ite_nil_right] at h
  rcases h with (⟨-, d, hd, rfl⟩ | ⟨-, v, hv, rfl⟩) | ⟨-, d, hd, rfl⟩
  · exact .of_firstFixed hd (by decide)
  · exact .of_fixed hv (by decide)
  · exact .of_firstFixed hd (by decide)

theorem declares_maskedBody (h : f ∈ r.maskedBody) : r.Declares f := by
  simp only [maskedBody, Option.mem_toList, Option.map_eq_some_iff,
    List.mem_ite_nil_right] at h
  obtain ⟨-, v, hv, rfl⟩ := h
  exact .of_value (mentioning?_eq_some hv) (by decide) rfl

theorem declares_viewportWidth (h : f ∈ r.viewportWidth) : r.Declares f := by
  simp only [viewportWidth, Option.mem_toList, Option.map_eq_some_iff,
    Option.filter_eq_some_iff] at h
  obtain ⟨v, ⟨hv, -⟩, rfl⟩ := h
  exact .of_value hv (by decide) rfl

theorem declares_rigidGrid (h : f ∈ r.rigidGrid s) : r.Declares f := by
  simp only [rigidGrid, Option.mem_toList, Option.map_eq_some_iff,
    List.mem_ite_nil_right] at h
  obtain ⟨-, d, hd, rfl⟩ := h
  exact .of_firstFixed hd (by decide)

theorem declares_absoluteOffsets (h : f ∈ r.absoluteOffsets) : r.Declares f := by
  simp only [absoluteOffsets, Option.mem_toList, Option.map_eq_some_iff,
    List.mem_ite_nil_right] at h
  obtain ⟨-, d, hd, rfl⟩ := h
  exact .of_firstFixed hd (by decide)

theorem declares_declarationHabits (h : f ∈ r.declarationHabits s) : r.Declares f := by
  obtain ⟨d, hd, h⟩ := List.mem_flatMap.1 h
  simp only [List.mem_append, List.mem_ite_nil_right, List.mem_singleton, Bool.and_eq_true] at h
  rcases h with ⟨⟨-, hname⟩, rfl⟩ | ⟨⟨⟨hname, hv⟩, -⟩, rfl⟩
  · exact ⟨.importantLayout, d, hd, hname, fun h => absurd h (by decide), rfl⟩
  · exact ⟨.fixedPixelSpacing, d, hd, hname, fun _ => hv, rfl⟩

theorem fixedBasis?_eq_some {pixels : Option Binary64}
    (h : r.fixedBasis? = some (property, value, pixels)) :
    r.value? property = some value ∧ property ∈ ["flex-basis", "flex"] := by
  unfold fixedBasis? at h
  split at h
  · next basis hb =>
    cases h
    exact ⟨(fixed?_eq_some_iff.1 hb).1, by decide⟩
  · obtain ⟨shorthand, hs, h⟩ := Option.bind_eq_some_iff.1 h
    obtain ⟨basis, -, h⟩ := Option.bind_eq_some_iff.1 h
    cases h
    exact ⟨hs, by decide⟩

theorem declares_fragileFlex (h : f ∈ r.fragileFlex s) : r.Declares f := by
  unfold fragileFlex at h
  split at h
  · cases h
  · next display hd =>
    rw [List.mem_append, List.mem_append, Option.mem_toList, Option.mem_toList] at h
    rcases h with (h | h) | h
    · obtain ⟨_, -, h⟩ := Option.bind_eq_some_iff.1 h
      obtain ⟨⟨p, v, x⟩, hbasis, h⟩ := Option.bind_eq_some_iff.1 h
      obtain ⟨_, -, h⟩ := Option.bind_eq_some_iff.1 h
      cases h
      obtain ⟨hvalue, hname⟩ := fixedBasis?_eq_some hbasis
      exact .of_value hvalue (List.contains_iff_mem.2 hname) rfl
    · rw [List.mem_ite_nil_right, List.mem_singleton] at h
      obtain ⟨-, rfl⟩ := h
      exact .of_value (mentioning?_eq_some hd) (by decide) rfl
    · obtain ⟨_, -, h⟩ := Option.bind_eq_some_iff.1 h
      obtain ⟨v, hv, h⟩ := Option.bind_eq_some_iff.1 h
      cases h
      exact .of_fixed (Option.filter_eq_some_iff.1 hv).1 (by decide)

theorem exists_width_of_mem_exceededBreakpoint {found : List Finding}
    (hfound : r.exceededBreakpoint = .ok found) (h : f ∈ found) :
    ∃ width, r.value? "width" = some width ∧
      f = r.finding .widthExceedsBreakpoint "width" width := by
  unfold exceededBreakpoint at hfound
  dsimp only at hfound
  obtain ⟨breakpoint, -, hfound⟩ := bind_eq_ok_iff.1 hfound
  split at hfound
  · next width _ hwidth _ =>
    split at hfound
    · cases hfound
    · cases hfound
      rw [List.mem_ite_nil_right, List.mem_singleton] at h
      exact ⟨width, hwidth, h.2⟩
  · cases hfound
    cases h

theorem declares_exceededBreakpoint {found : List Finding}
    (hfound : r.exceededBreakpoint = .ok found) (h : f ∈ found) : r.Declares f := by
  obtain ⟨width, hwidth, rfl⟩ := exists_width_of_mem_exceededBreakpoint hfound h
  exact .of_value hwidth (by decide) rfl

/-- What the checks of single rules find at a rule. -/
inductive Finds (s : Settings) (r : Rule) (f : Finding) : Prop
  | fixedDimensions (h : f ∈ r.fixedDimensions s)
  | horizontalOverflow (h : f ∈ r.horizontalOverflow)
  | maskedBody (h : f ∈ r.maskedBody)
  | viewportWidth (h : f ∈ r.viewportWidth)
  | exceededBreakpoint {found : List Finding} (hfound : r.exceededBreakpoint = .ok found)
      (h : f ∈ found)
  | fragileFlex (h : f ∈ r.fragileFlex s)
  | rigidGrid (h : f ∈ r.rigidGrid s)
  | absoluteOffsets (h : f ∈ r.absoluteOffsets)
  | declarationHabits (h : f ∈ r.declarationHabits s)

theorem Finds.declares (h : r.Finds s f) : r.Declares f := by
  cases h with
  | fixedDimensions h => exact declares_fixedDimensions h
  | horizontalOverflow h => exact declares_horizontalOverflow h
  | maskedBody h => exact declares_maskedBody h
  | viewportWidth h => exact declares_viewportWidth h
  | exceededBreakpoint hfound h => exact declares_exceededBreakpoint hfound h
  | fragileFlex h => exact declares_fragileFlex h
  | rigidGrid h => exact declares_rigidGrid h
  | absoluteOffsets h => exact declares_absoluteOffsets h
  | declarationHabits h => exact declares_declarationHabits h

end Rule

/-! ## Wording -/

/-- A finding with standard wording. -/
def Finding.IsWorded (f : Finding) : Prop :=
  f.wording = f.kind.wording ∨ f.wording = Kind.mediaWidthWording

variable {f : Finding} {s : Settings} {sheet : Stylesheet} {selector : String}

theorem Rule.Declares.isWorded {r : Rule} (h : r.Declares f) : f.IsWorded := by
  obtain ⟨kind, d, -, -, -, rfl⟩ := h
  exact .inl rfl

namespace Stylesheet

theorem isWorded_mixedSizing (h : f ∈ sheet.mixedSizing) : f.IsWorded := by
  simp only [mixedSizing, List.mem_ite_nil_right, List.mem_singleton] at h
  obtain ⟨-, rfl⟩ := h
  exact .inl rfl

theorem isWorded_mediaConflicts (h : f ∈ sheet.mediaConflicts) : f.IsWorded := by
  obtain ⟨selector, -, h⟩ := List.mem_filterMap.1 h
  obtain ⟨d, -, rfl⟩ := Option.map_eq_some_iff.1 h
  exact .inl rfl

/-- The width in a media block that is found under a selector, if the widths can be compared. -/
def foundWidth? (sheet : Stylesheet) (selector : String) : Option String :=
  (sheet.unstableWidth? selector).toOption.getD none

theorem foundWidth?_eq_some_iff {width : String} :
    sheet.foundWidth? selector = some width ↔ sheet.unstableWidth? selector = .ok (some width) := by
  unfold foundWidth?
  cases sheet.unstableWidth? selector with
  | error cause => exact iff_of_false nofun nofun
  | ok found => exact ⟨congrArg Except.ok, Except.ok.inj⟩

/-- The check of widths in media blocks succeeds if it does under every selector, and puts together
what it finds. -/
theorem unstableWidths_of_ok
    (h : ∀ selector ∈ sheet.mediaSelectors s, ∃ width, sheet.unstableWidth? selector = .ok width) :
    sheet.unstableWidths s = .ok ((sheet.mediaSelectors s).filterMap fun selector =>
      (sheet.foundWidth? selector).map (unstableFinding selector)) := by
  have hmapM : (sheet.mediaSelectors s).mapM (fun selector =>
        return (← sheet.unstableWidth? selector).map (unstableFinding selector)) =
      .ok ((sheet.mediaSelectors s).map fun selector =>
        (sheet.foundWidth? selector).map (unstableFinding selector)) := by
    refine mapM_eq_ok_map fun selector hselector => ?_
    obtain ⟨width, hwidth⟩ := h selector hselector
    rw [foundWidth?, hwidth]
    rfl
  rw [unstableWidths, hmapM]
  exact congrArg Except.ok List.filterMap_map

theorem exists_unstableWidths_iff :
    (∃ found, sheet.unstableWidths s = .ok found) ↔
      ∀ selector ∈ sheet.mediaSelectors s, ∃ width, sheet.unstableWidth? selector = .ok width := by
  refine ⟨?_, fun h => ⟨_, unstableWidths_of_ok h⟩⟩
  rintro ⟨found, h⟩ selector hselector
  obtain ⟨made, hmade, -⟩ := bind_eq_ok_iff.1 h
  obtain ⟨b, -, hb⟩ := exists_mem_of_mapM hmade hselector
  obtain ⟨width, hwidth, -⟩ := bind_eq_ok_iff.1 hb
  exact ⟨width, hwidth⟩

/-- What the check of widths in media blocks finds. -/
def FindsUnstable (sheet : Stylesheet) (s : Settings) (f : Finding) : Prop :=
  ∃ selector ∈ sheet.mediaSelectors s, ∃ width,
    sheet.unstableWidth? selector = .ok (some width) ∧ f = unstableFinding selector width

theorem findsUnstable_of_mem {found : List Finding} (hfound : sheet.unstableWidths s = .ok found)
    (h : f ∈ found) : sheet.FindsUnstable s f := by
  rw [unstableWidths_of_ok (exists_unstableWidths_iff.1 ⟨found, hfound⟩)] at hfound
  cases hfound
  obtain ⟨selector, hselector, h⟩ := List.mem_filterMap.1 h
  obtain ⟨width, hwidth, rfl⟩ := Option.map_eq_some_iff.1 h
  exact ⟨selector, hselector, width, foundWidth?_eq_some_iff.1 hwidth, rfl⟩

theorem FindsUnstable.isWorded (h : sheet.FindsUnstable s f) : f.IsWorded := by
  obtain ⟨selector, -, width, -, rfl⟩ := h
  exact .inr rfl

end Stylesheet

namespace Check

/-- Where a finding comes from: from a rule that is not ignored, or from a check of the whole
stylesheet. -/
theorem finds_of_mem_run {check : Check} {found : List Finding}
    (hfound : check.run s sheet = .ok found) (h : f ∈ found) :
    (∃ r ∈ activeRules s sheet, r.Finds s f) ∨ (check = .boxModel ∧ f ∈ sheet.mixedSizing) ∨
      f ∈ sheet.mediaConflicts ∨ sheet.FindsUnstable s f := by
  have hover {perRule : Rule → List Finding} (hp : ∀ r, f ∈ perRule r → r.Finds s f)
      (hf : f ∈ overRules s sheet perRule) : ∃ r ∈ activeRules s sheet, r.Finds s f := by
    obtain ⟨r, hr, hf⟩ := List.mem_flatMap.1 hf
    exact ⟨r, hr, hp r hf⟩
  cases check with
  | fixedDimensions =>
    cases hfound
    exact .inl (hover (fun _ => .fixedDimensions) h)
  | boxModel =>
    cases hfound
    exact .inr (.inl ⟨rfl, h⟩)
  | overflowHorizontal =>
    cases hfound
    exact .inl (hover (fun _ => .horizontalOverflow) h)
  | mediaConflicts =>
    cases hfound
    exact .inr (.inr (.inl h))
  | overflowMaskBody =>
    cases hfound
    exact .inl (hover (fun _ => .maskedBody) h)
  | vwWidthRisk =>
    cases hfound
    exact .inl (hover (fun _ => .viewportWidth) h)
  | breakpointFixedWidth =>
    cases hrun : (activeRules s sheet).mapM Rule.exceededBreakpoint with
    | error cause => rw [run, hrun] at hfound; cases hfound
    | ok lists =>
      rw [run, hrun] at hfound
      cases hfound
      obtain ⟨list, hlist, hf⟩ := List.mem_flatten.1 h
      obtain ⟨r, hr, hbreak⟩ := exists_of_mem_mapM hrun hlist
      exact .inl ⟨r, hr, .exceededBreakpoint hbreak hf⟩
  | mediaWidthInstability =>
    exact .inr (.inr (.inr (Stylesheet.findsUnstable_of_mem (mapError_eq_ok_iff.1 hfound) h)))
  | flexFragility =>
    cases hfound
    exact .inl (hover (fun _ => .fragileFlex) h)
  | gridRigidity =>
    cases hfound
    exact .inl (hover (fun _ => .rigidGrid) h)
  | absoluteContainment =>
    cases hfound
    exact .inl (hover (fun _ => .absoluteOffsets) h)
  | antiPatterns =>
    cases hfound
    exact .inl (hover (fun _ => .declarationHabits) h)

/-- What a rule is found for is one of its declarations. -/
theorem cases_of_mem_run {check : Check} {found : List Finding}
    (hfound : check.run s sheet = .ok found) (h : f ∈ found) :
    (∃ r ∈ activeRules s sheet, r.Declares f) ∨ (check = .boxModel ∧ f ∈ sheet.mixedSizing) ∨
      f ∈ sheet.mediaConflicts ∨ sheet.FindsUnstable s f :=
  (finds_of_mem_run hfound h).imp_left fun ⟨r, hr, hfinds⟩ => ⟨r, hr, hfinds.declares⟩

/-- Whatever a check finds has standard wording. -/
theorem isWorded_of_mem_run {check : Check} {found : List Finding}
    (hfound : check.run s sheet = .ok found) (h : f ∈ found) : f.IsWorded := by
  rcases cases_of_mem_run hfound h with ⟨r, -, hr⟩ | ⟨-, h⟩ | h | h
  · exact hr.isWorded
  · exact Stylesheet.isWorded_mixedSizing h
  · exact Stylesheet.isWorded_mediaConflicts h
  · exact h.isWorded

end Check

/-! ## Declarations at fault -/

/-- The rule has the selector, the property and the value of the finding. -/
def Rule.Backs (r : Rule) (f : Finding) : Prop :=
  f.selector = r.selector ∧ ∃ d ∈ r.declarations, f.property = some d.1 ∧ f.value = some d.2

theorem Rule.Declares.backs {r : Rule} (h : r.Declares f) : r.Backs f := by
  obtain ⟨kind, d, hd, -, -, rfl⟩ := h
  exact ⟨rfl, d, hd, rfl, rfl⟩

namespace Stylesheet

/-- Names that come once have one value each. -/
theorem disagree_valuesOf_of_nodup {declarations : List (String × String)}
    (h : (declarations.map (·.1)).Nodup) (property : String) :
    disagree (valuesOf declarations property) = false := by
  rcases filter_key_of_nodup h property with hnil | ⟨d, hd⟩
  · rw [valuesOf, hnil]
    rfl
  · rw [valuesOf, hd]
    rfl

/-- Selectors with one rule each, whose names come once, have nothing to disagree about. -/
theorem mediaConflicts_eq_nil (hselectors : (sheet.rules.map (·.selector)).Nodup)
    (hnames : ∀ r ∈ sheet.rules, (r.declarations.map (·.1)).Nodup) :
    sheet.mediaConflicts = [] := by
  have hunder (selector : String) :
      ((declarationsUnder sheet.rules selector).map (·.1)).Nodup := by
    rcases filter_key_of_nodup hselectors selector with hnil | ⟨r, hr⟩
    · rw [declarationsUnder, hnil]
      exact List.nodup_nil
    · have hmem : r ∈ sheet.rules.filter (·.selector = selector) := hr ▸ List.mem_cons_self
      rw [declarationsUnder, hr, List.flatMap_singleton]
      exact hnames r (List.mem_filter.1 hmem).1
  refine List.filterMap_eq_nil_iff.2 fun selector _ => ?_
  rw [Option.map_eq_none_iff, conflict?]
  have hfind : ((declarationsUnder sheet.rules selector).map (·.1)).eraseDups.find?
      (fun p => disagree (valuesOf (declarationsUnder sheet.rules selector) p)) = none := by
    refine List.find?_eq_none.2 fun p _ => ?_
    rw [disagree_valuesOf_of_nodup (hunder selector) p]
    decide
  rw [hfind]
  rfl

theorem exists_backs_of_mem_mediaConflicts (h : f ∈ sheet.mediaConflicts) :
    ∃ r ∈ sheet.rules, r.Backs f := by
  obtain ⟨selector, -, h⟩ := List.mem_filterMap.1 h
  obtain ⟨⟨property, value⟩, hconflict, rfl⟩ := Option.map_eq_some_iff.1 h
  obtain ⟨property', -, hconflict⟩ := Option.bind_eq_some_iff.1 hconflict
  obtain ⟨value', hlast, hconflict⟩ := Option.bind_eq_some_iff.1 hconflict
  cases hconflict
  obtain ⟨d, hd, rfl⟩ := List.mem_map.1 (List.mem_of_getLast? hlast)
  obtain ⟨hd, hproperty⟩ := List.mem_filter.1 hd
  obtain ⟨r, hr, hd⟩ := List.mem_flatMap.1 hd
  obtain ⟨hr, hselector⟩ := List.mem_filter.1 hr
  refine ⟨r, hr, (of_decide_eq_true hselector).symm, d, hd, ?_, rfl⟩
  exact congrArg some (of_decide_eq_true hproperty).symm

/-- The width that is found is one that a rule in a media block gives to the selector. -/
theorem mem_widthsOf_of_unstableWidth? {width : String}
    (h : sheet.unstableWidth? selector = .ok (some width)) :
    width ∈ widthsOf sheet.mediaRules selector := by
  obtain ⟨base?, -, h⟩ := bind_eq_ok_iff.1 h
  cases base? with
  | none => cases h
  | some pixels =>
    obtain ⟨before, found, after, hsplit, -, -, rfl⟩ := findM?_eq_some_iff.1 h
    rw [hsplit]
    exact List.mem_append_right _ List.mem_cons_self

theorem FindsUnstable.exists_backs (h : sheet.FindsUnstable s f) :
    ∃ r ∈ sheet.rules, r.Backs f := by
  obtain ⟨selector, -, width, hunstable, rfl⟩ := h
  obtain ⟨r, hr, hgiven⟩ := List.mem_filterMap.1 (mem_widthsOf_of_unstableWidth? hunstable)
  obtain ⟨hr, hselector⟩ := List.mem_filter.1 hr
  have hvalue : r.value? "width" = some width := (Option.filter_eq_some_iff.1 hgiven).1
  exact ⟨r, (List.mem_filter.1 hr).1, (of_decide_eq_true hselector).symm, _,
    Rule.mem_of_value? hvalue, rfl, rfl⟩

end Stylesheet

/-- Whatever a check finds is about a declaration of a rule, but for the mix of box models, which
is about all rules. -/
theorem Check.exists_backs_of_mem_run {check : Check} {found : List Finding}
    (hfound : check.run s sheet = .ok found) (h : f ∈ found) :
    f = .about .mixedBoxSizing "*" "box-sizing" "content-box" ∨ ∃ r ∈ sheet.rules, r.Backs f := by
  rcases cases_of_mem_run hfound h with ⟨r, hr, hd⟩ | ⟨-, h⟩ | h | h
  · exact .inr ⟨r, (List.mem_filter.1 hr).1, hd.backs⟩
  · simp only [Stylesheet.mixedSizing, List.mem_ite_nil_right, List.mem_singleton] at h
    exact .inl h.2
  · exact .inr (Stylesheet.exists_backs_of_mem_mediaConflicts h)
  · exact .inr h.exists_backs

/-- Only rules that disagree are found at a property without a name. -/
theorem Check.property_ne_of_mem_run {check : Check} {found : List Finding}
    (hfound : check.run s sheet = .ok found) (h : f ∈ found) :
    f ∈ sheet.mediaConflicts ∨ f.property ≠ some "" := by
  rcases cases_of_mem_run hfound h with ⟨r, -, _, d, -, hconcerns, -, rfl⟩ | ⟨-, h⟩ | h | h
  · exact .inr fun h => Kind.property_ne_of_concerns hconcerns (Option.some.inj h)
  · simp only [Stylesheet.mixedSizing, List.mem_ite_nil_right, List.mem_singleton] at h
    obtain ⟨-, rfl⟩ := h
    exact .inr (by decide)
  · exact .inl h
  · obtain ⟨selector, -, width, -, rfl⟩ := h
    exact .inr (show some "width" ≠ some "" by decide)

theorem Check.run_of_listed {check : Check} {listed : Check × List Finding}
    (h : (do return (check, ← check.run s sheet)) = Except.ok listed) :
    check.run s sheet = .ok listed.2 := by
  cases hrun : check.run s sheet with
  | error cause => rw [hrun] at h; cases h
  | ok list =>
    rw [hrun] at h
    cases h
    rfl

/-- A finding of several checks is one of one of them. -/
theorem exists_run_of_mem_detect {checks : List Check} {found : List (Check × List Finding)}
    (hfound : detect s sheet checks = .ok found) (h : f ∈ found.flatMap (·.2)) :
    ∃ (check : Check) (list : List Finding), check.run s sheet = .ok list ∧ f ∈ list := by
  obtain ⟨listed, hlisted, hf⟩ := List.mem_flatMap.1 h
  obtain ⟨check, -, hcheck⟩ := exists_of_mem_mapM hfound hlisted
  exact ⟨check, listed.2, Check.run_of_listed hcheck, hf⟩

/-- What one of several checks finds is among the findings of all. -/
theorem mem_of_mem_run {check : Check} {checks : List Check} {found : List (Check × List Finding)}
    {list : List Finding} (hfound : detect s sheet checks = .ok found) (hcheck : check ∈ checks)
    (hrun : check.run s sheet = .ok list) (h : f ∈ list) : f ∈ found.flatMap (·.2) := by
  obtain ⟨listed, hlisted, hwork⟩ := exists_mem_of_mapM hfound hcheck
  have hsame := (Check.run_of_listed hwork).symm.trans hrun
  cases hsame
  exact List.mem_flatMap.2 ⟨listed, hlisted, h⟩

/-! ## Whole analyses -/

theorem Finding.IsWorded.placedAt (h : f.IsWorded) (line : Int) (span : Span) :
    (f.placedAt line span).IsWorded := h

theorem isWorded_of_mem_scan {source : String} (h : f ∈ LineScan.scan s source) : f.IsWorded := by
  obtain ⟨_, _, _, _, _, _, _, -, -, -, -, -, rfl⟩ := LineScan.exists_of_mem_scan h
  exact Finding.IsWorded.placedAt (.inl rfl) _ _

namespace Analysis

variable {source language : String} {checks : List Check} {result : Result}

theorem prefix_findings_capped (r : Result) (s : Settings) :
    (r.capped s).findings <+: r.findings := by
  unfold Result.capped
  split
  · exact List.take_prefix _ _
  · exact List.prefix_refl _

/-- If fewer findings are left than may be, none was cut off. -/
theorem findings_capped_of_lt {r : Result} {s : Settings}
    (h : ((r.capped s).findings.length : Int) < s.maxProblems) :
    (r.capped s).findings = r.findings := by
  unfold Result.capped at h ⊢
  split
  · next hmany =>
    rw [if_pos hmany, List.length_take] at h
    omega
  · rfl

/-- The findings of an analysis are the first of all that there are in the dialect. -/
theorem exists_of_analyze (h : analyze source language s checks = .ok result) :
    ∃ dialect all, Language.parse? language = some dialect ∧
      findAll source dialect s checks = .ok all ∧ result.findings <+: all.findings := by
  unfold analyze at h
  split at h
  · cases h
  · next dialect hd =>
    cases hall : findAll source dialect s checks with
    | error e => rw [hall] at h; cases h
    | ok all =>
      rw [hall] at h
      cases h
      exact ⟨dialect, all, hd, hall, prefix_findings_capped _ s⟩

/-- An analysis in a dialect gives the findings in it as far as they are not cut off. -/
theorem analyze_of_findAll {dialect : Language} {all : Result}
    (hdialect : Language.parse? language = some dialect)
    (hall : findAll source dialect s checks = .ok all) :
    ∃ result, analyze source language s checks = .ok result ∧
      result.findings <+: all.findings ∧
      ((result.findings.length : Int) < s.maxProblems → result.findings = all.findings) := by
  unfold analyze
  rw [hdialect]
  dsimp only
  rw [hall]
  exact ⟨_, rfl, prefix_findings_capped _ s, findings_capped_of_lt⟩

/-- Where a finding of an analysis comes from: a check has found it and it was placed, or the lines
were scanned for it. -/
theorem cases_of_mem_findAll {dialect : Language} {all : Result}
    (hall : findAll source dialect s checks = .ok all) (h : f ∈ all.findings) :
    (∃ (check : Check) (found : List Finding), check.run s (Stylesheet.parse source) = .ok found ∧
        ∃ g ∈ found, f = g.place (lines source.toList)) ∨ f ∈ LineScan.scan s source := by
  unfold findAll at hall
  split at hall
  · dsimp only at hall
    split at hall
    · next found hfound =>
      cases hall
      obtain ⟨g, hg, rfl⟩ := List.mem_map.1 h
      obtain ⟨check, list, hrun, hg⟩ := exists_run_of_mem_detect hfound hg
      exact .inl ⟨check, list, hrun, g, hg, rfl⟩
    · cases hall
  · cases hall
    exact .inr h

theorem cases_of_mem_analyze (h : analyze source language s checks = .ok result)
    (hf : f ∈ result.findings) :
    (∃ (check : Check) (found : List Finding), check.run s (Stylesheet.parse source) = .ok found ∧
        ∃ g ∈ found, f = g.place (lines source.toList)) ∨ f ∈ LineScan.scan s source := by
  obtain ⟨dialect, all, -, hall, hfirst⟩ := exists_of_analyze h
  exact cases_of_mem_findAll hall (hfirst.subset hf)

/-- Whatever an analysis finds has standard wording. -/
theorem isWorded_of_mem_analyze (h : analyze source language s checks = .ok result)
    (hf : f ∈ result.findings) : f.IsWorded := by
  rcases cases_of_mem_analyze h hf with ⟨check, found, hrun, g, hg, rfl⟩ | hscan
  · exact (Check.isWorded_of_mem_run hrun hg).placedAt _ _
  · exact isWorded_of_mem_scan hscan

end Analysis

end Reflow
