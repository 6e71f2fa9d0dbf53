import Reflow.Proofs.Check.Ignoring
import Reflow.Proofs.Check.Witnesses
import Reflow.Proofs.LineScan.Rows

/-!
# Two readings of one stylesheet

A laid out stylesheet can be read as rules, or line by line as a dialect that is not. The checks of
rules look at properties by their names and at values up to the ends of words; a scan of lines looks
at neither. So a scan also finds a longer name that ends with the property, and a unit that goes on.

* `Rule.finding_mem_fixedDimensions`: the widths and heights that the checks report.
* `Finding.declaredAt_of_place`: where findings with fixed values are placed.
* `Analysis.read_iff_of_scanned`: when both readings report a declaration.
-/

namespace Reflow

open Text Length Stylesheet

variable {rules : List PlainRule} {emptyRows : Nat} {s : Settings} {checks : List Check}
  {property value : String} {kind : Kind} {measure : Measure} {f g : Finding}

/-! ## Fixed widths and heights -/

/-- Kinds of measures concern the property of the measure, and fixed values only. -/
theorem Kind.eq_of_concerns (hmeasure : (property, kind, measure) ∈ LineScan.measures) :
    kind.isFixedKind ∧ kind ≠ .mixedBoxSizing ∧ kind ≠ .mediaQueryInstability ∧
      ∀ p, kind.concerns p → p = property := by
  rcases LineScan.cases_of_mem_measures hmeasure with ⟨rfl, rfl, rfl⟩ | ⟨rfl, rfl, rfl⟩
  · exact ⟨rfl, by decide, by decide, fun p hp => of_decide_eq_true hp⟩
  · exact ⟨rfl, by decide, by decide, fun p hp => of_decide_eq_true hp⟩

/-- A fixed width or height worth a finding is reported. -/
theorem Rule.finding_mem_fixedDimensions {r : Rule}
    (hmeasure : (property, kind, measure) ∈ LineScan.measures)
    (hvalue : r.value? property = some value) (hfixed : isFixed value)
    (hreports : s.reportsValue measure value) :
    r.finding kind property value ∈ r.fixedDimensions s := by
  have hgiven : r.fixed? property = some value := fixed?_eq_some_iff.2 ⟨hvalue, hfixed⟩
  simp only [fixedDimensions, List.mem_append, Option.mem_toList, Option.map_eq_some_iff,
    Option.filter_eq_some_iff]
  rcases LineScan.cases_of_mem_measures hmeasure with ⟨rfl, rfl, rfl⟩ | ⟨rfl, rfl, rfl⟩
  · exact .inl (.inl (.inl ⟨value, ⟨hgiven, hreports⟩, rfl⟩))
  · exact .inl (.inl (.inr ⟨value, ⟨hgiven, hreports⟩, rfl⟩))

/-! ## Findings by rules -/

/-- A finding about a declaration with a pixel length is placed in its row. -/
theorem Finding.declaredAt_of_place (h : IsLayout rules) {r : PlainRule} (hr : r ∈ rules)
    (hselector : f.selector = r.selector) (hpair : (property, value) ∈ r.pairs)
    (hproperty : f.property = some property) (hne : property ≠ "") (hfixed : isFixed value)
    (emptyRows : Nat) :
    ∃ index : Nat, DeclaredAt rules index (property, value) ∧
      (f.place (lines (layout rules emptyRows).toList)).line = some ((index : Int) + 1) := by
  obtain ⟨before, r, after, ps, qs, e, index, start, hrules, -, hpairs, -, hindex, -, hline, -⟩ :=
    f.standsAt_place h hr hselector hpair hproperty hne hfixed emptyRows
  exact ⟨index, ⟨before, r, after, ps, qs, hrules, hpairs, hindex⟩, hline⟩

/-- What a check finds of a measure is about the property of the measure, with a fixed value. -/
theorem Check.exists_pair_of_mem_run (h : ∀ r ∈ rules, r.IsLaidOut)
    (hmeasure : (property, kind, measure) ∈ LineScan.measures) {check : Check}
    {found : List Finding}
    (hfound : check.run s (Stylesheet.parse (layout rules emptyRows)) = .ok found)
    (hf : f ∈ found) (hkind : f.kind = kind) :
    ∃ r ∈ rules, f.selector = r.selector ∧ f.property = some property ∧
      ∃ value, (property, value) ∈ r.pairs ∧ isFixed value := by
  obtain ⟨hfixedKind, hmixed, hmedia, hconcerned⟩ := Kind.eq_of_concerns hmeasure
  subst hkind
  rcases cases_of_mem_run hfound hf with ⟨r, hr, kind, d, hd, hconcerns, hfixed, rfl⟩ | ⟨-, hf⟩ |
    hf | hf
  · have hmem := (List.mem_filter.1 hr).1
    rw [parse_layout h] at hmem
    clear hr
    obtain ⟨r, hr, rfl⟩ := List.mem_map.1 hmem
    have hproperty : d.1 = property := hconcerned d.1 hconcerns
    subst hproperty
    exact ⟨r, hr, rfl, rfl, d.2, hd, hfixed hfixedKind⟩
  · exact absurd (Stylesheet.kind_of_mem_mixedSizing hf) hmixed
  · exact absurd (Stylesheet.kind_of_mem_mediaConflicts hf) hmedia
  · exact absurd hf.kind_eq hmedia

section Placed

variable (h : IsLayout rules) {found : List (Check × List Finding)}
  (hfound : detect s (Stylesheet.parse (layout rules emptyRows)) checks = .ok found)
  (hmeasure : (property, kind, measure) ∈ LineScan.measures) {index : Nat} {p : String × String}
  (hp : DeclaredAt rules index p)
include h hfound hmeasure hp

/-- What the checks report of a measure in the row of a declaration is about the declaration. -/
theorem eq_of_placed (hg : g ∈ placeAll (found.flatMap (·.2)) (layout rules emptyRows))
    (hkind : g.kind = kind) (hline : g.line = some ((index : Int) + 1)) :
    p.1 = property ∧ isFixed p.2 := by
  have hne := LineScan.property_ne hmeasure
  obtain ⟨g, hmem, rfl⟩ := List.mem_map.1 hg
  obtain ⟨check, list, hrun, hmem⟩ := exists_run_of_mem_detect hfound hmem
  obtain ⟨r, hr, hselector, hproperty, value, hpair, hfixed⟩ :=
    Check.exists_pair_of_mem_run h.rule hmeasure hrun hmem hkind
  obtain ⟨index', hdeclared, hline'⟩ :=
    g.declaredAt_of_place h hr hselector hpair hproperty hne hfixed emptyRows
  have hindex : index' = index := by
    have := Option.some.inj (hline'.symm.trans hline)
    omega
  subst hindex
  obtain rfl := hdeclared.unique h.rule hp
  exact ⟨rfl, hfixed⟩

/-- The checks report a fixed value of a measure in the row of its declaration. -/
theorem exists_placed (hignored : s.ignored = []) (hchecks : .fixedDimensions ∈ checks)
    (hproperty : p.1 = property) (hfixed : isFixed p.2) (hreports : s.reportsValue measure p.2) :
    ∃ g ∈ placeAll (found.flatMap (·.2)) (layout rules emptyRows),
      g.kind = kind ∧ g.line = some ((index : Int) + 1) := by
  subst hproperty
  have hne := LineScan.property_ne hmeasure
  obtain ⟨before, r, after, ps, qs, rfl, hpairs, rfl⟩ := hp
  obtain ⟨e, he⟩ := exists_pixelWord_of_isFixed hfixed
  have hr : r ∈ before ++ r :: after := List.mem_append_right _ List.mem_cons_self
  have hpair : p ∈ r.pairs := by
    rw [hpairs]
    exact List.mem_append_right _ List.mem_cons_self
  have hvalue : r.asRule.value? p.1 = some p.2 :=
    lookup_of_mem_of_nodup (h.rule r hr).names hpair
  have hg : r.asRule.finding kind p.1 p.2 ∈ Check.overRules s
      (Stylesheet.parse (layout (before ++ r :: after) emptyRows)) (Rule.fixedDimensions s) := by
    refine List.mem_flatMap.2 ⟨r.asRule, ?_,
      Rule.finding_mem_fixedDimensions hmeasure hvalue hfixed hreports⟩
    rw [Check.activeRules_all hignored, parse_layout h.rule]
    exact List.mem_map_of_mem hr
  have hlocate := (r.asRule.finding kind p.1 p.2).locate_rows h rfl rfl hne hpairs he emptyRows
  refine ⟨_, List.mem_map_of_mem (mem_of_mem_run hfound hchecks rfl hg), rfl, ?_⟩
  rw [lines_layout h.rule (List.ne_nil_of_mem hr), Finding.place, hlocate]
  rfl

end Placed

/-! ## Both readings -/

namespace Analysis

/-- Whatever a scan of lines finds in a laid out stylesheet stands in the row of a declaration whose
name ends with the property and whose value starts with a number of pixels. The checks of rules
report that row, for the same kind, exactly if the name is the property and the value is fixed: a
longer name, or a unit that is no word of its own, is reported by the scan alone. -/
theorem read_iff_of_scanned (h : IsLayout rules)
    (hselectors : ∀ r ∈ rules, ':' ∉ r.selector.toList) (emptyRows : Nat)
    (hignored : s.ignored = []) (hchecks : .fixedDimensions ∈ checks) :
    ∃ scanned read,
      analyze (layout rules emptyRows) "less" s checks = .ok scanned ∧
      analyze (layout rules emptyRows) "css" s checks = .ok read ∧
      ((read.findings.length : Int) < s.maxProblems → ∀ f ∈ scanned.findings,
        ∃ property index p, f.property = some property ∧ DeclaredAt rules index p ∧
          f.line = some ((index : Int) + 1) ∧ property.toList <:+ p.1.toList ∧
          (∃ u t, p.2.toList = u ++ t ∧ IsPixelLength u) ∧
          ((∃ g ∈ read.findings, g.kind = f.kind ∧ g.line = f.line) ↔
            p.1 = property ∧ isFixed p.2)) := by
  obtain ⟨found, hfound⟩ := exists_detect_layout h.rule emptyRows s checks
  have hless : Language.parse? "less" = some .less := by decide
  have hcss : Language.parse? "css" = some .css := by decide
  have hscan : findAll (layout rules emptyRows) .less s checks =
      .ok ⟨LineScan.scan s (layout rules emptyRows), []⟩ := rfl
  have hread : findAll (layout rules emptyRows) .css s checks =
      .ok ⟨placeAll (found.flatMap (·.2)) (layout rules emptyRows),
        detectionNotes (Stylesheet.parse (layout rules emptyRows)) found⟩ := by
    rw [findAll, if_pos (by decide)]
    dsimp only
    rw [hfound]
  obtain ⟨scanned, hscanned, hfirst, -⟩ := analyze_of_findAll hless hscan
  obtain ⟨read, hread, -, hwhole⟩ := analyze_of_findAll hcss hread
  refine ⟨scanned, read, hscanned, hread, fun hroom f hf => ?_⟩
  have hmem : f ∈ LineScan.scan s (layout rules emptyRows) := hfirst.subset hf
  obtain ⟨property, kind, measure, hmeasure, hkind, hproperty, index, p, hp, hline, hends, hstarts,
    hreports⟩ := LineScan.declaredAt_of_mem_scan h.rule hselectors hmem
  refine ⟨property, index, p, hproperty, hp, hline, hends, hstarts, ?_⟩
  rw [hwhole hroom, hkind, hline]
  constructor
  · rintro ⟨g, hg, hgkind, hgline⟩
    exact eq_of_placed h hfound hmeasure hp hg hgkind hgline
  · rintro ⟨hname, hfixed⟩
    exact exists_placed h hfound hmeasure hp hignored hchecks hname hfixed hreports

/-- Of two widths of a rule, the checks report the one whose name is no longer. -/
theorem read_iff_of_scanned_width :
    let rules : List PlainRule := [⟨".a", [("max-width", "600px"), ("width", "500px")]⟩]
    IsLayout rules ∧ (∀ r ∈ rules, ':' ∉ r.selector.toList) ∧ Settings.standard.ignored = [] ∧
      .fixedDimensions ∈ Check.all ∧ ∃ scanned read,
        analyze (layout rules 1) "less" .standard Check.all = .ok scanned ∧
        analyze (layout rules 1) "css" .standard Check.all = .ok read ∧
        (read.findings.length : Int) < Settings.standard.maxProblems ∧
        (∃ f ∈ scanned.findings, f.line = some 2 ∧
          ¬ ∃ g ∈ read.findings, g.kind = f.kind ∧ g.line = f.line) ∧
        ∃ f ∈ scanned.findings, f.line = some 3 ∧
          ∃ g ∈ read.findings, g.kind = f.kind ∧ g.line = f.line := by
  intro rules
  have hlayout : IsLayout rules := by decide +kernel
  have hselectors : ∀ r ∈ rules, ':' ∉ r.selector.toList := by decide
  have hchecks : Check.fixedDimensions ∈ Check.all := by decide
  have hmax : DeclaredAt rules 1 ("max-width", "600px") := ⟨[], _, [], [], _, rfl, rfl, rfl⟩
  have hwidth : DeclaredAt rules 2 ("width", "500px") := ⟨[], _, [], [_], _, rfl, rfl, rfl⟩
  have hlines : (analyze (layout rules 1) "less" .standard Check.all).toOption.map
      (·.findings.map fun f => (f.property, f.line)) =
        some [(some "width", some 2), (some "width", some 3)] := by
    decide +kernel
  have hcount : (analyze (layout rules 1) "css" .standard Check.all).toOption.map
      (·.findings.length) = some 1 := by
    decide +kernel
  obtain ⟨scanned, read, hscanned, hread, hagree⟩ :=
    read_iff_of_scanned hlayout hselectors 1 rfl hchecks (s := .standard)
  rw [hscanned] at hlines
  rw [hread] at hcount
  have hlines : scanned.findings.map (fun f => (f.property, f.line)) =
      [(some "width", some 2), (some "width", some 3)] := Option.some.inj hlines
  have hroom : (read.findings.length : Int) < Settings.standard.maxProblems := by
    have hone : read.findings.length = 1 := Option.some.inj hcount
    rw [hone]
    decide
  have hat {index : Nat} {p : String × String} (hp : DeclaredAt rules index p)
      (hmem : (some "width", some ((index : Int) + 1)) ∈
        scanned.findings.map fun f => (f.property, f.line)) :
      ∃ f ∈ scanned.findings, f.line = some ((index : Int) + 1) ∧
        ((∃ g ∈ read.findings, g.kind = f.kind ∧ g.line = f.line) ↔
          p.1 = "width" ∧ isFixed p.2) := by
    obtain ⟨f, hf, hfacts⟩ := List.mem_map.1 hmem
    obtain ⟨hfproperty, hfline⟩ := Prod.mk.inj hfacts
    obtain ⟨property, index', q, hproperty, hq, hline, -, -, hiff⟩ := hagree hroom f hf
    obtain rfl := Option.some.inj (hproperty.symm.trans hfproperty)
    have hindex : index' = index := by
      have := Option.some.inj (hline.symm.trans hfline)
      omega
    subst hindex
    obtain rfl := hp.unique hlayout.rule hq
    exact ⟨f, hf, hfline, hiff⟩
  refine ⟨hlayout, hselectors, rfl, hchecks, scanned, read, hscanned, hread, hroom, ?_, ?_⟩
  · obtain ⟨f, hf, hline, hiff⟩ := hat hmax (by rw [hlines]; decide)
    exact ⟨f, hf, hline, fun hread => absurd (hiff.1 hread).1 (by decide)⟩
  · obtain ⟨f, hf, hline, hiff⟩ := hat hwidth (by rw [hlines]; decide)
    exact ⟨f, hf, hline, hiff.2 ⟨rfl, by decide +kernel⟩⟩

/-- A longer name and a longer unit, both reported by the scan and neither by the checks. -/
theorem not_read_of_longer :
    let rules : List PlainRule := [⟨".a", [("max-width", "500px"), ("height", "400pxx")]⟩]
    IsLayout rules ∧ (∀ r ∈ rules, ':' ∉ r.selector.toList) ∧ Settings.standard.ignored = [] ∧
      ∃ scanned read,
        analyze (layout rules 1) "less" .standard Check.all = .ok scanned ∧
        analyze (layout rules 1) "css" .standard Check.all = .ok read ∧
        (read.findings.length : Int) < Settings.standard.maxProblems ∧
        scanned.findings.map (fun f => (f.kind, f.line)) =
          [(.fixedWidth, some 2), (.fixedHeight, some 3)] ∧
        ∀ f ∈ scanned.findings, ¬ ∃ g ∈ read.findings, g.kind = f.kind ∧ g.line = f.line := by
  intro rules
  have hscan : (analyze (layout rules 1) "less" .standard Check.all).toOption.map
      (·.findings.map fun f => (f.kind, f.line)) =
        some [(.fixedWidth, some 2), (.fixedHeight, some 3)] := by
    decide +kernel
  have hnone : (analyze (layout rules 1) "css" .standard Check.all).toOption.map (·.findings) =
      some [] := by
    decide +kernel
  obtain ⟨scanned, hscanned, hfindings⟩ := exists_of_toOption_map hscan
  obtain ⟨read, hread, hempty⟩ := exists_of_toOption_map hnone
  refine ⟨by decide +kernel, by decide, rfl, scanned, read, hscanned, hread, ?_, hfindings, ?_⟩
  · rw [hempty]
    decide
  · rintro f - ⟨g, hg, -⟩
    rw [hempty] at hg
    cases hg

end Analysis

end Reflow
