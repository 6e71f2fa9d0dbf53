import Reflow.Proofs.Length.FirstNumbers
import Reflow.Proofs.LineScan.Matches
import Reflow.Proofs.Position.Layout

/-!
# Scanning laid out rows

A row of a laid out stylesheet has a colon only if it is the row of a declaration, and then one
only. So a scan for a property finds it in the rows of names that end with the property, longer
names as well, with a number of pixels at the front of the value, whatever follows the unit.

* `Stylesheet.DeclaredAt`, `Stylesheet.exists_declaredAt`: the rows with a colon.
* `LineScan.of_first?_declarationRow`: what is matched in the row of a declaration.
* `LineScan.declaredAt_of_mem_scan`: what is found in a laid out stylesheet.
-/

namespace Reflow

open Text Length

/-! ## Rows of declarations -/

namespace Stylesheet

variable {rules : List PlainRule} {r : PlainRule} {p q : String × String} {index emptyRows : Nat}
  {row : List Char}

/-- The row of that index, counted from zero, is the one of a declaration. -/
def DeclaredAt (rules : List PlainRule) (index : Nat) (p : String × String) : Prop :=
  ∃ before r after ps qs, rules = before ++ r :: after ∧ r.pairs = ps ++ p :: qs ∧
    index = (before.flatMap PlainRule.rows).length + (ps.length + 1)

theorem DeclaredAt.of_pairs {ps qs : List (String × String)} (hpairs : r.pairs = ps ++ p :: qs)
    (rules : List PlainRule) : DeclaredAt (r :: rules) (ps.length + 1) p :=
  ⟨[], r, rules, ps, qs, rfl, hpairs, (Nat.zero_add _).symm⟩

theorem DeclaredAt.cons (h : DeclaredAt rules index p) (r : PlainRule) :
    DeclaredAt (r :: rules) (r.rows.length + index) p := by
  obtain ⟨before, r', after, ps, qs, rfl, hpairs, rfl⟩ := h
  refine ⟨r :: before, r', after, ps, qs, rfl, hpairs, ?_⟩
  rw [List.flatMap_cons, List.length_append, Nat.add_assoc]

theorem DeclaredAt.exists_mem (h : DeclaredAt rules index p) : ∃ r ∈ rules, p ∈ r.pairs := by
  obtain ⟨before, r, after, ps, qs, rfl, hpairs, -⟩ := h
  refine ⟨r, List.mem_append_right _ List.mem_cons_self, ?_⟩
  rw [hpairs]
  exact List.mem_append_right _ List.mem_cons_self

/-- In the rows of a rule, the rows with a colon are those of declarations. -/
theorem exists_pair_of_rows (hselector : ':' ∉ r.selector.toList) (h : r.rows[index]? = some row)
    (hcolon : ':' ∈ row) :
    ∃ ps p qs, r.pairs = ps ++ p :: qs ∧ index = ps.length + 1 ∧ row = declarationRow p := by
  cases index with
  | zero =>
    cases h
    have hbehind : ':' ≠ ' ' ∧ ':' ≠ '{' := by decide
    rcases mem_headRow.1 hcolon with hc | hc | hc
    · exact absurd hc hselector
    · exact absurd hc hbehind.1
    · exact absurd hc hbehind.2
  | succ index =>
    rw [PlainRule.rows, List.getElem?_cons_succ] at h
    rcases Nat.lt_or_ge index r.pairs.length with hlt | hge
    · rw [List.getElem?_append_left (by rwa [List.length_map]), List.getElem?_map,
        List.getElem?_eq_getElem hlt] at h
      refine ⟨r.pairs.take index, r.pairs[index], r.pairs.drop (index + 1), ?_, ?_, ?_⟩
      · rw [List.getElem_cons_drop, List.take_append_drop]
      · rw [List.length_take]
        omega
      · exact (Option.some.inj h).symm
    · rw [List.getElem?_append_right (by rwa [List.length_map])] at h
      have hrow : row = ['}'] := List.mem_singleton.1 (List.mem_of_getElem? h)
      rw [hrow] at hcolon
      exact absurd hcolon (by decide)

/-- The rows with a colon are those of declarations, if selectors have none. -/
theorem exists_declaredAt (hselectors : ∀ r ∈ rules, ':' ∉ r.selector.toList)
    (h : (rowsOf rules emptyRows)[index]? = some row) (hcolon : ':' ∈ row) :
    ∃ p, DeclaredAt rules index p ∧ row = declarationRow p := by
  induction rules generalizing index with
  | nil =>
    have hrow : row = [] := (List.mem_replicate.1 (List.mem_of_getElem? h)).2
    rw [hrow] at hcolon
    cases hcolon
  | cons r rules ih =>
    obtain ⟨hr, hrules⟩ := List.forall_mem_cons.1 hselectors
    rw [rowsOf, List.flatMap_cons, List.append_assoc, ← rowsOf] at h
    rcases Nat.lt_or_ge index r.rows.length with hin | hout
    · rw [List.getElem?_append_left hin] at h
      obtain ⟨ps, p, qs, hpairs, rfl, hrow⟩ := exists_pair_of_rows hr h hcolon
      exact ⟨p, .of_pairs hpairs rules, hrow⟩
    · rw [List.getElem?_append_right hout] at h
      obtain ⟨p, hp, hrow⟩ := ih hrules h
      have hdeclared := hp.cons r
      rw [Nat.add_sub_cancel' hout] at hdeclared
      exact ⟨p, hdeclared, hrow⟩

/-- The row of a declaration tells it. -/
theorem declarationRow_inj (hname : ∀ c ∈ p.1.toList, isNameCharacter c) (hvalue : ':' ∉ p.2.toList)
    (h : declarationRow p = declarationRow q) : p = q := by
  have hrow : declarationRow p =
      (' ' :: ' ' :: q.1.toList) ++ ':' :: (' ' :: (q.2.toList ++ [';'])) := h
  obtain ⟨hnames, hvalues⟩ := eq_of_declarationRow hname hvalue hrow
  simp only [List.cons.injEq, true_and] at hnames hvalues
  exact Prod.ext (String.toList_inj.1 hnames.symm)
    (String.toList_inj.1 (List.append_left_injective _ hvalues.symm))

theorem DeclaredAt.getElem? (h : DeclaredAt rules index p) (emptyRows : Nat) :
    (rowsOf rules emptyRows)[index]? = some (declarationRow p) := by
  obtain ⟨before, r, after, ps, qs, rfl, hpairs, rfl⟩ := h
  rw [Position.rowsOf_append_row before after hpairs]
  simp

/-- A row is that of one declaration only. -/
theorem DeclaredAt.unique (hrules : ∀ r ∈ rules, r.IsLaidOut) (hp : DeclaredAt rules index p)
    (hq : DeclaredAt rules index q) : p = q := by
  obtain ⟨r, hr, hmem⟩ := hp.exists_mem
  have hlaid := hrules r hr
  have hrow := (hp.getElem? 0).symm.trans (hq.getElem? 0)
  exact declarationRow_inj (hlaid.name p hmem) (hlaid.value_noColon p hmem) (Option.some.inj hrow)

theorem lines_layout_nil (h : row ∈ lines (layout [] emptyRows).toList) : row = [] := by
  cases emptyRows with
  | zero => exact List.mem_singleton.1 h
  | succ n =>
    have hrows : ∀ row ∈ rowsOf [] (n + 1), row = [] := fun row hrow =>
      (List.mem_replicate.1 hrow).2
    have hmark : ∀ row ∈ rowsOf [] (n + 1), '\n' ∉ row := fun row hrow =>
      hrows row hrow ▸ List.not_mem_nil
    have hne : rowsOf [] (n + 1) ≠ [] := List.cons_ne_nil _ _
    rw [layout, String.toList_ofList, lines, splitAt_intercalate hne hmark] at h
    exact hrows row h

/-- A line with a colon in a laid out stylesheet is the row of a declaration. -/
theorem exists_declaredAt_of_lines (h : ∀ r ∈ rules, r.IsLaidOut)
    (hselectors : ∀ r ∈ rules, ':' ∉ r.selector.toList)
    (hrow : (lines (layout rules emptyRows).toList)[index]? = some row) (hcolon : ':' ∈ row) :
    ∃ p, DeclaredAt rules index p ∧ row = declarationRow p := by
  by_cases hne : rules = []
  · subst hne
    rw [lines_layout_nil (List.mem_of_getElem? hrow)] at hcolon
    cases hcolon
  · rw [lines_layout h hne] at hrow
    exact exists_declaredAt hselectors hrow hcolon

end Stylesheet

/-! ## What is found -/

namespace LineScan

open Length Stylesheet

variable {s : Settings} {property : String} {p : String × String} {e : Extent} {measure : Measure}
  {f : Finding}

/-- Blanks and a number of pixels at the front of a value in its row are the space in front of the
value and the front of the value. -/
theorem exists_rest_of_value {value blanks u rest : List Char} {number : Numeral}
    (htrim : trim value = value) (hblanks : ∀ c ∈ blanks, isBlank c) (hu : IsPixelNumber number u)
    (h : ' ' :: (value ++ [';']) = blanks ++ (u ++ rest)) : ∃ t, value = u ++ t := by
  match blanks with
  | [] =>
    -- A number starts with a digit and not with the space.
    obtain ⟨c, v, rfl, hc⟩ := hu.isPixelLength.exists_cons
    simp only [List.nil_append, List.cons_append, List.cons.injEq] at h
    rw [← h.1] at hc
    exact absurd hc (by decide)
  | [_] =>
    obtain ⟨-, hvalue⟩ := List.cons.inj h
    have hprefix : u <+: value ++ [';'] := ⟨rest, hvalue.symm⟩
    rcases List.prefix_concat_iff.1 hprefix with hall | ⟨t, ht⟩
    · obtain ⟨v, x, hv, hx, -⟩ := hu.isPixelLength.exists_concat
      obtain ⟨-, hlast⟩ := List.append_inj' (hv.symm.trans hall) rfl
      cases hlast
      exact absurd hx (by decide)
    · exact ⟨t, ht.symm⟩
  | _ :: c :: blanks =>
    -- A value starts with no blank.
    obtain ⟨-, hvalue⟩ := List.cons.inj h
    have hc : isBlank c := hblanks c (by simp)
    cases value with
    | nil =>
      obtain ⟨rfl, -⟩ := List.cons.inj hvalue
      exact absurd hc (by decide)
    | cons d value =>
      obtain ⟨rfl, -⟩ := List.cons.inj hvalue
      rw [not_isBlank_of_trim htrim] at hc
      cases hc

/-- A match in the row of a declaration goes over the end of the name. -/
theorem suffix_of_indented {a name : List Char}
    (hletters : ∀ c ∈ property.toList, isNameCharacter c)
    (h : a ++ property.toList = ' ' :: ' ' :: name) : property.toList <:+ name := by
  have hspace : ' ' ∉ property.toList := fun hc => absurd (hletters _ hc) (by decide)
  have hsuffix : property.toList <:+ ' ' :: ' ' :: name := ⟨a, h⟩
  rcases List.suffix_cons_iff.1 hsuffix with hall | hsuffix
  · exact absurd (hall ▸ List.mem_cons_self) hspace
  rcases List.suffix_cons_iff.1 hsuffix with hall | hsuffix
  · exact absurd (hall ▸ List.mem_cons_self) hspace
  · exact hsuffix

/-- What is matched in the row of a declaration: a name that ends with the property, and a value
that starts with a number of pixels worth a finding. -/
theorem of_first?_declarationRow (hletters : ∀ c ∈ property.toList, isNameCharacter c)
    (hname : ∀ c ∈ p.1.toList, isNameCharacter c) (htrim : trim p.2.toList = p.2.toList)
    (hcolon : ':' ∉ p.2.toList)
    (he : (declarationPattern property).first? (declarationRow p) = some e)
    (hreports : s.reports measure (declaredPixels? property (e.cut (declarationRow p)))) :
    property.toList <:+ p.1.toList ∧ (∃ u t, p.2.toList = u ++ t ∧ IsPixelLength u) ∧
      s.reportsValue measure p.2 := by
  obtain ⟨a, word, blanks, number, u, rest, hsame, hblanks, hu, hrow, hcut⟩ :=
    exists_cut_of_first? he
  rw [hcut, declaredPixels?_eq_some hsame hblanks hu] at hreports
  have hsplit : declarationRow p = (a ++ word) ++ ':' :: (blanks ++ (u ++ rest)) := by
    rw [hrow]
    simp
  obtain ⟨hnames, hvalues⟩ := eq_of_declarationRow hname hcolon hsplit
  have hword : ∀ c ∈ word, c ∈ ' ' :: ' ' :: p.1.toList := fun c hc =>
    hnames ▸ List.mem_append_right _ hc
  obtain rfl := Position.eq_of_indented_letters hletters hname hword hsame
  obtain ⟨t, hvalue⟩ := exists_rest_of_value htrim hblanks hu hvalues.symm
  refine ⟨suffix_of_indented hletters hnames, ⟨u, t, hvalue, hu.isPixelLength⟩, ?_⟩
  have hfirst : IsFirst IsPixelNumber number p.2.toList :=
    ⟨[], u, t, hvalue, hu, fun _ _ _ _ _ hlt => absurd hlt (Nat.not_lt_zero _)⟩
  rw [Settings.reportsValue, pixels?_of_isFirst hfirst]
  exact hreports

/-- What is found in a laid out stylesheet stands in the row of a declaration. -/
theorem declaredAt_of_mem_scan {rules : List PlainRule} {emptyRows : Nat}
    (h : ∀ r ∈ rules, r.IsLaidOut) (hselectors : ∀ r ∈ rules, ':' ∉ r.selector.toList)
    (hf : f ∈ scan s (layout rules emptyRows)) :
    ∃ property kind measure, (property, kind, measure) ∈ measures ∧ f.kind = kind ∧
      f.property = some property ∧ ∃ index p, DeclaredAt rules index p ∧
        f.line = some ((index : Int) + 1) ∧ property.toList <:+ p.1.toList ∧
        (∃ u t, p.2.toList = u ++ t ∧ IsPixelLength u) ∧ s.reportsValue measure p.2 := by
  obtain ⟨index, row, property, kind, measure, e, _, hrow, hmeasure, he, hreports, -, rfl⟩ :=
    exists_of_mem_scan hf
  obtain ⟨p, hp, rfl⟩ := exists_declaredAt_of_lines h hselectors hrow (colon_mem_of_first? he)
  obtain ⟨r, hr, hmem⟩ := hp.exists_mem
  have hlaid := h r hr
  have hfacts := of_first?_declarationRow (isNameCharacter_of_mem_measures hmeasure)
    (hlaid.name p hmem) (hlaid.value p hmem).trimmed (hlaid.value_noColon p hmem) he hreports
  exact ⟨property, kind, measure, hmeasure, rfl, rfl, index, p, hp, rfl, hfacts⟩

end LineScan

end Reflow
