import Reflow.Proofs.Check.Findings

/-!
# Selectors whose rules disagree

One check compares the rules of a selector with each other, in media blocks or outside. What it
finds is told here by the rules: which selectors are found, at which property and value, and in
which order.

* `Stylesheet.pairwise_selectorsOf`: the selectors of rules of a kind, in the order of the rules.
* `Stylesheet.Conflicts`, `Check.mediaConflicts_exact`: rules of a selector give different values to
  a property.
-/

namespace Reflow

open Stylesheet

variable {s : Settings} {sheet : Stylesheet} {rules : List Rule} {r : Rule}
  {selector property value : String}

namespace Stylesheet

/-! ## Selectors in order -/

/-- The place of the first rule of a kind that a selector has. -/
def firstPlace (sheet : Stylesheet) (kind : Rule → Bool) (selector : String) : Nat :=
  sheet.rules.findIdx fun r => kind r && r.selector = selector

theorem pairwise_selectorsOf (sheet : Stylesheet) (kind : Rule → Bool) :
    (selectorsOf (sheet.rules.filter kind)).Pairwise fun j k =>
      sheet.firstPlace kind j < sheet.firstPlace kind k :=
  pairwise_findIdx_eraseDups Rule.selector kind sheet.rules

theorem nodup_selectorsOf (rules : List Rule) : (selectorsOf rules).Nodup := by
  have hpairwise := pairwise_selectorsOf ⟨rules⟩ fun _ => true
  rw [List.filter_eq_self.2 fun _ _ => rfl] at hpairwise
  refine hpairwise.imp fun hlt heq => ?_
  rw [heq] at hlt
  exact Nat.lt_irrefl _ hlt

theorem mem_selectorsOf_iff :
    selector ∈ selectorsOf rules ↔ ∃ r ∈ rules, r.selector = selector := by
  rw [selectorsOf, List.mem_eraseDups, List.mem_map]

/-! ## Conflicts -/

/-- A rule of the selector gives the value to the property. -/
def Gives (sheet : Stylesheet) (selector property value : String) : Prop :=
  ∃ r ∈ sheet.rules, r.selector = selector ∧ r.value? property = some value

/-- Rules of the selector give different values to the property. -/
def Conflicts (sheet : Stylesheet) (selector property : String) : Prop :=
  ∃ v w, v ≠ w ∧ sheet.Gives selector property v ∧ sheet.Gives selector property w

/-- The names that the rules of a selector declare, in the order of the rules. -/
def namesUnder (sheet : Stylesheet) (selector : String) : List String :=
  (sheet.rules.filter (·.selector = selector)).flatMap fun r => r.declarations.map (·.1)

/-- The first property with a conflict among the names that rules of the selector declare. -/
def FirstConflict (sheet : Stylesheet) (selector property : String) : Prop :=
  ∃ before after, sheet.namesUnder selector = before ++ property :: after ∧
    (∀ p ∈ before, ¬ sheet.Conflicts selector p) ∧ sheet.Conflicts selector property

/-- The last rule of the selector that declares the property gives it the value. -/
def LastGives (sheet : Stylesheet) (selector property value : String) : Prop :=
  ∃ before r after, sheet.rules = before ++ r :: after ∧ r.selector = selector ∧
    r.value? property = some value ∧ ∀ q ∈ after, q.selector = selector → q.value? property = none

theorem FirstConflict.conflicts (h : sheet.FirstConflict selector property) :
    sheet.Conflicts selector property := by
  obtain ⟨-, -, -, -, hconflict⟩ := h
  exact hconflict

theorem disagree_iff {values : List String} :
    disagree values ↔ ∃ v w, v ≠ w ∧ v ∈ values ∧ w ∈ values := by
  cases values with
  | nil => simp [disagree]
  | cons u values =>
    simp only [disagree, List.any_eq_true, decide_eq_true_eq]
    constructor
    · rintro ⟨v, hv, hne⟩
      exact ⟨v, u, hne, List.mem_cons_of_mem _ hv, List.mem_cons_self⟩
    · rintro ⟨v, w, hne, hv, hw⟩
      -- One of two different values is not the first.
      by_cases hvu : v = u
      · subst hvu
        exact ⟨w, (List.mem_cons.1 hw).resolve_left hne.symm, hne.symm⟩
      · exact ⟨v, (List.mem_cons.1 hv).resolve_left hvu, hvu⟩

/-- The value that a rule gives to a property, if it is a rule of the selector. -/
def valueUnder? (selector property : String) (r : Rule) : Option String :=
  if r.selector = selector then r.value? property else none

theorem valueUnder?_eq_some_iff :
    valueUnder? selector property r = some value ↔
      r.selector = selector ∧ r.value? property = some value := by
  simp [valueUnder?]

theorem valueUnder?_eq_none_iff :
    valueUnder? selector property r = none ↔ (r.selector = selector → r.value? property = none) := by
  simp [valueUnder?]

/-- Names that come once have the values that are looked up. -/
theorem valuesOf_of_nodup (h : (r.declarations.map (·.1)).Nodup) (property : String) :
    valuesOf r.declarations property = (r.value? property).toList := by
  rcases filter_key_of_nodup h property with hnil | ⟨d, hd⟩
  · have hnone : r.value? property = none := by
      refine List.lookup_eq_none_iff.2 fun d hd => ?_
      have hne : ¬ d.1 = property := by simpa using List.filter_eq_nil_iff.1 hnil d hd
      simpa using Ne.symm hne
    rw [valuesOf, hnil, hnone]
    rfl
  · have hmem : d ∈ r.declarations.filter (·.1 = property) := hd ▸ List.mem_cons_self
    obtain ⟨hmem, hname⟩ := List.mem_filter.1 hmem
    have hvalue : r.value? d.1 = some d.2 := lookup_of_mem_of_nodup h hmem
    rw [of_decide_eq_true hname] at hvalue
    rw [valuesOf, hd, hvalue]
    rfl

theorem valuesOf_declarationsUnder (hnames : ∀ r ∈ rules, (r.declarations.map (·.1)).Nodup)
    (selector property : String) :
    valuesOf (declarationsUnder rules selector) property =
      rules.filterMap (valueUnder? selector property) := by
  induction rules with
  | nil => rfl
  | cons r rules ih =>
    obtain ⟨hr, hrules⟩ := List.forall_mem_cons.1 hnames
    specialize ih hrules
    by_cases hselector : r.selector = selector
    · have hvalues := valuesOf_of_nodup hr property
      simp only [valuesOf, declarationsUnder] at hvalues ih ⊢
      rw [List.filter_cons_of_pos (by simpa using hselector), List.flatMap_cons,
        List.filter_append, List.map_append, hvalues, ih, List.filterMap_cons, valueUnder?,
        if_pos hselector]
      cases r.value? property <;> rfl
    · have hnone : valueUnder? selector property r = none := if_neg hselector
      simp only [valuesOf, declarationsUnder] at ih ⊢
      rw [List.filter_cons_of_neg (by simpa using hselector), ih, List.filterMap_cons_none hnone]

section

variable (hnames : ∀ r ∈ sheet.rules, (r.declarations.map (·.1)).Nodup)
include hnames

theorem mem_valuesOf_iff :
    value ∈ valuesOf (declarationsUnder sheet.rules selector) property ↔
      sheet.Gives selector property value := by
  rw [valuesOf_declarationsUnder hnames, List.mem_filterMap]
  simp only [valueUnder?_eq_some_iff, Gives]

theorem disagree_iff_conflicts :
    disagree (valuesOf (declarationsUnder sheet.rules selector) property) ↔
      sheet.Conflicts selector property := by
  simp only [disagree_iff, mem_valuesOf_iff hnames, Conflicts]

theorem getLast?_valuesOf_iff :
    (valuesOf (declarationsUnder sheet.rules selector) property).getLast? = some value ↔
      sheet.LastGives selector property value := by
  rw [valuesOf_declarationsUnder hnames, getLast?_filterMap_eq_some_iff]
  simp only [valueUnder?_eq_some_iff, valueUnder?_eq_none_iff, LastGives, and_assoc]

theorem find?_names_iff :
    ((declarationsUnder sheet.rules selector).map (·.1)).eraseDups.find?
        (fun p => disagree (valuesOf (declarationsUnder sheet.rules selector) p)) = some property ↔
      sheet.FirstConflict selector property := by
  have hnamesUnder : (declarationsUnder sheet.rules selector).map (·.1) =
      sheet.namesUnder selector := by
    rw [declarationsUnder, List.map_flatMap, namesUnder]
  rw [find?_eraseDups, List.find?_eq_some_iff_append, hnamesUnder]
  simp only [Bool.not_eq_true', ← Bool.not_eq_true, disagree_iff_conflicts hnames, FirstConflict]
  constructor
  · rintro ⟨hconflict, before, after, hsplit, hbefore⟩
    exact ⟨before, after, hsplit, hbefore, hconflict⟩
  · rintro ⟨before, after, hsplit, hbefore, hconflict⟩
    exact ⟨hconflict, before, after, hsplit, hbefore⟩

theorem conflict?_eq_some_iff :
    conflict? sheet.rules selector = some (property, value) ↔
      sheet.FirstConflict selector property ∧ sheet.LastGives selector property value := by
  rw [← find?_names_iff hnames, ← getLast?_valuesOf_iff hnames, conflict?]
  constructor
  · intro h
    obtain ⟨property', hfind, h⟩ := Option.bind_eq_some_iff.1 h
    obtain ⟨value', hlast, h⟩ := Option.bind_eq_some_iff.1 h
    cases h
    exact ⟨hfind, hlast⟩
  · rintro ⟨hfind, hlast⟩
    exact Option.bind_eq_some_iff.2 ⟨property, hfind, Option.bind_eq_some_iff.2 ⟨value, hlast, rfl⟩⟩

theorem exists_firstConflict (h : sheet.Conflicts selector property) :
    ∃ first, sheet.FirstConflict selector first := by
  have hdisagree := (disagree_iff_conflicts hnames).2 h
  obtain ⟨v, -, -, ⟨r, hr, hselector, hvalue⟩, -⟩ := h
  have hmem : property ∈ (declarationsUnder sheet.rules selector).map (·.1) := by
    refine List.mem_map.2 ⟨(property, v), List.mem_flatMap.2 ⟨r, ?_, ?_⟩, rfl⟩
    · simpa using ⟨hr, hselector⟩
    · exact Rule.mem_of_value? hvalue
  have hsome : (((declarationsUnder sheet.rules selector).map (·.1)).eraseDups.find? fun p =>
      disagree (valuesOf (declarationsUnder sheet.rules selector) p)).isSome :=
    List.find?_isSome.2 ⟨property, List.mem_eraseDups.2 hmem, hdisagree⟩
  obtain ⟨first, hfirst⟩ := Option.isSome_iff_exists.1 hsome
  exact ⟨first, (find?_names_iff hnames).1 hfirst⟩

theorem exists_lastGives (h : sheet.Gives selector property value) :
    ∃ last, sheet.LastGives selector property last := by
  have hne := List.ne_nil_of_mem ((mem_valuesOf_iff hnames).2 h)
  obtain ⟨last, hlast⟩ := Option.isSome_iff_exists.1 (List.getLast?_isSome.2 hne)
  exact ⟨last, (getLast?_valuesOf_iff hnames).1 hlast⟩

end

/-- A conflict that is found is one under the selector of some rule. -/
theorem mem_selectorsOf_of_conflict? {d : String × String}
    (h : conflict? rules selector = some d) : selector ∈ selectorsOf rules := by
  obtain ⟨property, hfind, -⟩ := Option.bind_eq_some_iff.1 h
  obtain ⟨⟨name, v⟩, hd, -⟩ := List.mem_map.1 (List.mem_eraseDups.1 (List.mem_of_find?_eq_some hfind))
  obtain ⟨r, hr, -⟩ := List.mem_flatMap.1 hd
  obtain ⟨hr, hselector⟩ := List.mem_filter.1 hr
  exact mem_selectorsOf_iff.2 ⟨r, hr, of_decide_eq_true hselector⟩

theorem filter_mediaConflicts (sheet : Stylesheet) (selector : String) :
    sheet.mediaConflicts.filter (·.selector = selector) =
      ((conflict? sheet.rules selector).map fun d =>
        Finding.about .mediaQueryInstability selector d.1 d.2).toList := by
  refine filter_filterMap_of_nodup (nodup_selectorsOf _) (fun k _ f hf => ?_) fun hnot => ?_
  · obtain ⟨d, -, rfl⟩ := Option.map_eq_some_iff.1 hf
    rfl
  · rw [Option.map_eq_none_iff]
    by_contra hne
    obtain ⟨d, hd⟩ := Option.ne_none_iff_exists'.1 hne
    exact hnot (mem_selectorsOf_of_conflict? hd)

theorem pairwise_mediaConflicts (sheet : Stylesheet) :
    sheet.mediaConflicts.Pairwise fun f g =>
      sheet.rules.findIdx (·.selector = f.selector) <
        sheet.rules.findIdx (·.selector = g.selector) := by
  have hselectors := pairwise_selectorsOf sheet fun _ => true
  rw [List.filter_eq_self.2 fun _ _ => rfl] at hselectors
  refine hselectors.filterMap _ fun j k hlt f hf g hg => ?_
  obtain ⟨d, -, rfl⟩ := Option.map_eq_some_iff.1 hf
  obtain ⟨e, -, rfl⟩ := Option.map_eq_some_iff.1 hg
  simp only [firstPlace, Bool.true_and] at hlt
  exact hlt

end Stylesheet

/-- Under each selector with a conflict the check finds one thing, the first property with a
conflict and the value that was given last; under other selectors it finds nothing. The findings
come in the order of the first rules of their selectors. In a rule each name comes once, as
declaring it again replaces its value. -/
theorem Check.mediaConflicts_exact (s : Settings)
    (hnames : ∀ r ∈ sheet.rules, (r.declarations.map (·.1)).Nodup) :
    ∃ found, Check.mediaConflicts.run s sheet = .ok found ∧
      (∀ selector, (∃ property, sheet.Conflicts selector property) →
        ∃ property value, sheet.FirstConflict selector property ∧
          sheet.LastGives selector property value ∧
          found.filter (·.selector = selector) =
            [.about .mediaQueryInstability selector property value]) ∧
      (∀ selector, (∀ property, ¬ sheet.Conflicts selector property) →
        found.filter (·.selector = selector) = []) ∧
      found.Pairwise fun f g =>
        sheet.rules.findIdx (·.selector = f.selector) <
          sheet.rules.findIdx (·.selector = g.selector) := by
  refine ⟨sheet.mediaConflicts, rfl, ?_, ?_, ?_⟩
  · rintro selector ⟨property, hconflict⟩
    obtain ⟨first, hfirst⟩ := exists_firstConflict hnames hconflict
    obtain ⟨v, -, -, hgives, -⟩ := hfirst.conflicts
    obtain ⟨last, hlast⟩ := exists_lastGives hnames hgives
    refine ⟨first, last, hfirst, hlast, ?_⟩
    rw [filter_mediaConflicts, (conflict?_eq_some_iff hnames).2 ⟨hfirst, hlast⟩]
    rfl
  · intro selector hnone
    rw [filter_mediaConflicts]
    cases hfound : conflict? sheet.rules selector with
    | none => rfl
    | some d => exact absurd ((conflict?_eq_some_iff hnames).1 hfound).1.conflicts (hnone d.1)
  · exact pairwise_mediaConflicts sheet

/-- Three rules of one selector, two of which disagree on a property that the first does not
declare, and a selector that agrees with itself. -/
theorem Check.mediaConflicts_exact_three :
    let media : AtRule := ⟨"media", "print"⟩
    let sheet : Stylesheet := ⟨[⟨".b", [("top", "1px")], none⟩, ⟨".a", [("top", "1px")], none⟩,
      ⟨".a", [("left", "1px"), ("top", "1px")], some media⟩, ⟨".b", [("top", "1px")], some media⟩,
      ⟨".a", [("left", "2px")], some media⟩, ⟨".c", [], none⟩]⟩
    (∀ r ∈ sheet.rules, (r.declarations.map (·.1)).Nodup) ∧
      (∃ property, sheet.Conflicts ".a" property) ∧
      ∃ found property value, Check.mediaConflicts.run .standard sheet = .ok found ∧
        sheet.FirstConflict ".a" property ∧ sheet.LastGives ".a" property value ∧
        found.filter (·.selector = ".a") =
          [.about .mediaQueryInstability ".a" property value] ∧
        found = [.about .mediaQueryInstability ".a" "left" "2px"] := by
  intro media sheet
  have hnames : ∀ r ∈ sheet.rules, (r.declarations.map (·.1)).Nodup := by decide
  have hconflict : ∃ property, sheet.Conflicts ".a" property :=
    ⟨"left", (disagree_iff_conflicts hnames).1 (by decide +kernel)⟩
  obtain ⟨found, hrun, hfound, -, -⟩ := mediaConflicts_exact .standard hnames
  obtain ⟨property, value, hfirst, hlast, hfilter⟩ := hfound ".a" hconflict
  have hall : sheet.mediaConflicts = [.about .mediaQueryInstability ".a" "left" "2px"] := by
    decide +kernel
  cases hrun
  exact ⟨hnames, hconflict, _, property, value, rfl, hfirst, hlast, hfilter, hall⟩

end Reflow
