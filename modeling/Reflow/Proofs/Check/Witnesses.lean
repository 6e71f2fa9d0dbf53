import Reflow.Proofs.Check.Findings
import Reflow.Proofs.Stylesheet.Declarations
import Reflow.Proofs.Text.Occurrence
import Reflow.Stylesheet.Reader

/-!
# Declarations that findings are about

Every finding but the mix of box models points at a declaration: there is a rule of its selector
that gives its value to its property.

* `Stylesheet.nodup_names_of_mem_parse`: a rule that was read declares each name once, so that
  declaring a value and having it are the same.
* `Check.exists_witness`: the findings of one check.
* `Stylesheet.mixedSizing_of_mixesSizing`, `countP_detect`: the mix of box models.
* `detect_witnessed`: all findings in a source text.
-/

namespace Reflow

open Text

variable {s : Settings} {sheet : Stylesheet} {f : Finding}

/-! ## Names of a rule that was read -/

theorem Stylesheet.nodup_names_declarations (body : List Char) :
    ((declarations body).map (·.1)).Nodup := by
  rw [declarations, Declarations.ofPairs_eq_lastValues]
  exact Declarations.nodup_map_fst_lastValues _

theorem Stylesheet.nodup_names_of_mem_rulesOf {atRule : Option AtRule} {text : List Char}
    {r : Rule} (h : r ∈ rulesOf atRule text) : (r.declarations.map (·.1)).Nodup := by
  obtain ⟨⟨selector, body⟩, -, rfl⟩ := List.mem_map.1 h
  exact nodup_names_declarations body

theorem Stylesheet.nodup_names_of_mem_parse {source : String} {r : Rule}
    (h : r ∈ (parse source).rules) : (r.declarations.map (·.1)).Nodup := by
  rcases List.mem_append.1 h with h | h
  · exact nodup_names_of_mem_rulesOf h
  · obtain ⟨block, -, h⟩ := List.mem_flatMap.1 h
    exact nodup_names_of_mem_rulesOf h

/-! ## One check -/

/-- The rule has the selector of the finding and gives the value to the property, a fixed one if the
kind asks for it. -/
def Rule.Witnesses (r : Rule) (f : Finding) : Prop :=
  r.selector = f.selector ∧ ∃ property value, f.property = some property ∧ f.value = some value ∧
    property ∈ r.declarations.map (·.1) ∧ r.value? property = some value ∧
    (f.kind.isFixedKind → Length.isFixed value)

theorem Rule.Backs.witnesses {r : Rule} (h : r.Backs f)
    (hnames : (r.declarations.map (·.1)).Nodup)
    (hfixed : f.kind.isFixedKind → ∀ value, f.value = some value → Length.isFixed value) :
    r.Witnesses f := by
  obtain ⟨hselector, d, hd, hproperty, hvalue⟩ := h
  exact ⟨hselector.symm, d.1, d.2, hproperty, hvalue, List.mem_map_of_mem hd,
    lookup_of_mem_of_nodup hnames hd, fun hkind => hfixed hkind d.2 hvalue⟩

theorem Rule.Declares.kind_ne {r : Rule} (h : r.Declares f) : f.kind ≠ .mixedBoxSizing := by
  obtain ⟨kind, d, -, hconcerns, -, rfl⟩ := h
  exact Kind.ne_of_concerns hconcerns

theorem Rule.Declares.isFixed {r : Rule} (h : r.Declares f) (hkind : f.kind.isFixedKind)
    {value : String} (hvalue : f.value = some value) : Length.isFixed value := by
  obtain ⟨kind, d, -, -, hfixed, rfl⟩ := h
  cases hvalue
  exact hfixed hkind

theorem Stylesheet.kind_of_mem_mediaConflicts (h : f ∈ sheet.mediaConflicts) :
    f.kind = .mediaQueryInstability := by
  obtain ⟨selector, -, h⟩ := List.mem_filterMap.1 h
  obtain ⟨d, -, rfl⟩ := Option.map_eq_some_iff.1 h
  rfl

theorem Stylesheet.FindsUnstable.kind_eq (h : sheet.FindsUnstable s f) :
    f.kind = .mediaQueryInstability := by
  obtain ⟨selector, -, width, -, rfl⟩ := h
  rfl

theorem Stylesheet.kind_of_mem_mixedSizing (h : f ∈ sheet.mixedSizing) :
    f.kind = .mixedBoxSizing := by
  simp only [mixedSizing, List.mem_ite_nil_right, List.mem_singleton] at h
  obtain ⟨-, rfl⟩ := h
  rfl

namespace Check

variable {check : Check} {found : List Finding}

/-- Only the check of box models finds them mixed. -/
theorem kind_ne_of_mem_run (hcheck : check ≠ .boxModel) (hfound : check.run s sheet = .ok found)
    (h : f ∈ found) : f.kind ≠ .mixedBoxSizing := by
  rcases cases_of_mem_run hfound h with ⟨r, -, hr⟩ | ⟨hbox, -⟩ | h | h
  · exact hr.kind_ne
  · exact absurd hbox hcheck
  · rw [Stylesheet.kind_of_mem_mediaConflicts h]
    decide
  · rw [h.kind_eq]
    decide

theorem exists_witness (hnames : ∀ r ∈ sheet.rules, (r.declarations.map (·.1)).Nodup)
    (hfound : check.run s sheet = .ok found) (h : f ∈ found) (hkind : f.kind ≠ .mixedBoxSizing) :
    ∃ r ∈ sheet.rules, r.Witnesses f := by
  have hunstable (hf : f.kind = .mediaQueryInstability) (hfixed : f.kind.isFixedKind) :
      ∀ value, f.value = some value → Length.isFixed value := by
    rw [hf] at hfixed
    cases hfixed
  rcases cases_of_mem_run hfound h with ⟨r, hr, hd⟩ | ⟨-, h⟩ | h | h
  · have hr : r ∈ sheet.rules := (List.mem_filter.1 hr).1
    exact ⟨r, hr, hd.backs.witnesses (hnames r hr) fun hfixed _ => hd.isFixed hfixed⟩
  · exact absurd (Stylesheet.kind_of_mem_mixedSizing h) hkind
  · obtain ⟨r, hr, hbacks⟩ := Stylesheet.exists_backs_of_mem_mediaConflicts h
    exact ⟨r, hr, hbacks.witnesses (hnames r hr)
      (hunstable (Stylesheet.kind_of_mem_mediaConflicts h))⟩
  · obtain ⟨r, hr, hbacks⟩ := h.exists_backs
    exact ⟨r, hr, hbacks.witnesses (hnames r hr) (hunstable h.kind_eq)⟩

end Check

/-! ## The mix of box models -/

/-- The box model that a rule asks for mentions the box, up to letter case. -/
def Rule.UsesBox (r : Rule) (box : String) : Prop :=
  ∃ value, r.value? "box-sizing" = some value ∧ box.toList <:+: lower value.toList

/-- Some rule asks for the border box and some rule for the content box. -/
def Stylesheet.MixesSizing (sheet : Stylesheet) : Prop :=
  (∃ r ∈ sheet.rules, r.UsesBox "border-box") ∧ ∃ r ∈ sheet.rules, r.UsesBox "content-box"

theorem Stylesheet.mixedSizing_of_mixesSizing (h : sheet.MixesSizing) :
    sheet.mixedSizing = [.about .mixedBoxSizing "*" "box-sizing" "content-box"] := by
  obtain ⟨⟨r, hr, hborder⟩, r', hr', hcontent⟩ := h
  refine if_pos ?_
  rw [Bool.and_eq_true, List.any_eq_true, List.any_eq_true]
  exact ⟨⟨r, hr, Rule.isSome_mentioning?_iff.2 hborder⟩,
    r', hr', Rule.isSome_mentioning?_iff.2 hcontent⟩

theorem Stylesheet.mixedSizing_of_not_mixesSizing (h : ¬ sheet.MixesSizing) :
    sheet.mixedSizing = [] := by
  refine if_neg fun hboth => h ?_
  rw [Bool.and_eq_true, List.any_eq_true, List.any_eq_true] at hboth
  obtain ⟨⟨r, hr, hborder⟩, r', hr', hcontent⟩ := hboth
  exact ⟨⟨r, hr, Rule.isSome_mentioning?_iff.1 hborder⟩,
    r', hr', Rule.isSome_mentioning?_iff.1 hcontent⟩

theorem Check.countP_run {check : Check} {found : List Finding}
    (hfound : check.run s sheet = .ok found) :
    found.countP (·.kind = .mixedBoxSizing) =
      if check = .boxModel then sheet.mixedSizing.length else 0 := by
  split
  · next hcheck =>
    subst hcheck
    cases hfound
    exact List.countP_eq_length.2 fun f hf =>
      decide_eq_true (Stylesheet.kind_of_mem_mixedSizing hf)
  · next hcheck =>
    refine List.countP_eq_zero.2 fun f hf hmix => ?_
    exact kind_ne_of_mem_run hcheck hfound hf (of_decide_eq_true hmix)

/-- Each check of box models finds them mixed once, if they are. -/
theorem countP_detect {checks : List Check} {found : List (Check × List Finding)}
    (h : detect s sheet checks = .ok found) :
    (found.flatMap (·.2)).countP (·.kind = .mixedBoxSizing) =
      checks.count .boxModel * sheet.mixedSizing.length := by
  have hall := forall₂_of_mapM h
  clear h
  induction hall with
  | nil => simp
  | @cons check listed checks found hcheck _ ih =>
    rw [List.flatMap_cons, List.countP_append, ih, List.count_cons, Nat.add_mul, Nat.add_comm,
      Check.countP_run (Check.run_of_listed hcheck)]
    by_cases hbox : check = .boxModel
    · simp [hbox]
    · simp [hbox]

/-- Every finding in a source text is about a declaration of a rule under its selector, with a fixed
value if its kind asks for one. Only the mix of box models is about all rules: each check of box
models finds it once if rules ask for both boxes, and a full analysis has one such check. -/
theorem detect_witnessed {source : String} {checks : List Check}
    {found : List (Check × List Finding)}
    (h : detect s (Stylesheet.parse source) checks = .ok found) :
    let sheet := Stylesheet.parse source
    let findings := found.flatMap (·.2)
    let mixes := findings.countP (·.kind = .mixedBoxSizing)
    (∀ f ∈ findings, f.kind ≠ .mixedBoxSizing → ∃ r ∈ sheet.rules, r.Witnesses f) ∧
      (sheet.MixesSizing → mixes = checks.count .boxModel) ∧
      (¬ sheet.MixesSizing → mixes = 0) ∧
      (checks = Check.all → mixes ≤ 1 ∧ (mixes = 1 ↔ sheet.MixesSizing)) := by
  intro sheet findings mixes
  have hcount : mixes = checks.count .boxModel * sheet.mixedSizing.length := countP_detect h
  have hyes (hmixes : sheet.MixesSizing) : mixes = checks.count .boxModel := by
    rw [hcount, Stylesheet.mixedSizing_of_mixesSizing hmixes, List.length_singleton, Nat.mul_one]
  have hno (hmixes : ¬ sheet.MixesSizing) : mixes = 0 := by
    rw [hcount, Stylesheet.mixedSizing_of_not_mixesSizing hmixes, List.length_nil, Nat.mul_zero]
  refine ⟨fun f hf hkind => ?_, hyes, hno, ?_⟩
  · obtain ⟨check, list, hrun, hf⟩ := exists_run_of_mem_detect h hf
    exact Check.exists_witness (fun r => Stylesheet.nodup_names_of_mem_parse) hrun hf hkind
  · rintro rfl
    have hone : Check.all.count .boxModel = 1 := by decide
    rw [hone] at hyes
    by_cases hmixes : sheet.MixesSizing
    · exact ⟨Nat.le_of_eq (hyes hmixes), iff_of_true (hyes hmixes) hmixes⟩
    · rw [hno hmixes]
      exact ⟨Nat.zero_le 1, iff_of_false Nat.zero_ne_one hmixes⟩

/-- A rule with a fixed width, and both boxes. -/
theorem detect_witnessed_both :
    let source := ".a \x7b WIDTH: 9px; box-sizing: border-box \x7d .b \x7b box-sizing: Content-Box \x7d"
    ∃ found, detect .standard (Stylesheet.parse source) Check.all = .ok found ∧
      (∃ f ∈ found.flatMap (·.2), f.kind = .fixedWidth ∧ f.kind ≠ .mixedBoxSizing ∧
        ∃ r ∈ (Stylesheet.parse source).rules, r.Witnesses f) ∧
      (Stylesheet.parse source).MixesSizing ∧
      (found.flatMap (·.2)).countP (·.kind = .mixedBoxSizing) = 1 := by
  intro source
  have hwidth : (detect .standard (Stylesheet.parse source) Check.all).toOption.any
      fun found => (found.flatMap (·.2)).any (·.kind = .fixedWidth) := by
    decide +kernel
  have hmixed : (Stylesheet.parse source).mixedSizing ≠ [] := by decide +kernel
  have hmixes : (Stylesheet.parse source).MixesSizing :=
    not_not.1 fun h => hmixed (Stylesheet.mixedSizing_of_not_mixesSizing h)
  cases hfound : detect .standard (Stylesheet.parse source) Check.all with
  | error cause => rw [hfound] at hwidth; cases hwidth
  | ok found =>
    rw [hfound] at hwidth
    obtain ⟨f, hf, hkind⟩ := List.any_eq_true.1 hwidth
    have hkind : f.kind = .fixedWidth := of_decide_eq_true hkind
    have hne : f.kind ≠ .mixedBoxSizing := by
      rw [hkind]
      decide
    obtain ⟨hwitness, -, -, hall⟩ := detect_witnessed hfound
    exact ⟨found, rfl, ⟨f, hf, hkind, hne, hwitness f hf hne⟩, hmixes, (hall rfl).2.2 hmixes⟩

end Reflow
