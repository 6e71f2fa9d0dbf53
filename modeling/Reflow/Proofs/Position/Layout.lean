import Reflow.Proofs.Check.Failures
import Reflow.Proofs.Position.Declarations

/-!
# Places in a laid out stylesheet

Reading a stylesheet forgets where things stood, and findings are placed by a search. In a
stylesheet that is laid out in rows, the search comes back to the declaration that a finding is
about, if its value is fixed.

* `anchor_rows`, `blockEnd_rows`: the search goes over the rows of one rule, whose selector stands
  in no row above.
* `searchFrom_rows`: it passes over the rows of other names.
* `Finding.StandsAt`: the finding has the row of a declaration, and the columns of the first pixel
  length of the value.
* `standsAt_of_layout`: all findings with fixed values do.
-/

namespace Reflow

open Text Length Stylesheet

namespace Position

variable {rules before after : List PlainRule} {r : PlainRule} {ps qs : List (String × String)}
  {property value : String} {emptyRows : Nat} {pattern : Pattern} {e : Extent}
  {a m b : List (List Char)} {row : List Char}

/-! ## Searches in a list of rows -/

theorem findIdx?_append_cons {α : Type} {p : α → Bool} {a b : List α} {x : α}
    (ha : ∀ y ∈ a, p y = false) (hx : p x) : (a ++ x :: b).findIdx? p = some a.length := by
  induction a with
  | nil => simp [List.findIdx?_cons, hx]
  | cons y a ih =>
    obtain ⟨hy, ha⟩ := List.forall_mem_cons.1 ha
    simp [List.findIdx?_cons, hy, ih ha]

theorem getD_append_cons {α : Type} (a b : List α) (x d : α) :
    (a ++ x :: b).getD a.length d = x := by
  simp

/-- A search goes on to the first row where the pattern has columns. -/
theorem searchFrom_append (hm : ∀ row ∈ m, columnsIn? pattern row = none)
    (hrow : columnsIn? pattern row = some e) {count : Nat} (hcount : m.length < count) :
    searchFrom (a ++ (m ++ row :: b)) pattern a.length count = some (a.length + m.length, e) := by
  induction m generalizing a count with
  | nil =>
    obtain ⟨count, rfl⟩ := Nat.exists_eq_succ_of_ne_zero (Nat.ne_of_gt hcount)
    rw [List.nil_append, searchFrom, getD_append_cons, hrow]
    rfl
  | cons next m ih =>
    obtain ⟨hnext, hm⟩ := List.forall_mem_cons.1 hm
    obtain ⟨count, rfl⟩ := Nat.exists_eq_succ_of_ne_zero (Nat.ne_of_gt (Nat.zero_lt_of_lt hcount))
    rw [List.cons_append, searchFrom, getD_append_cons, hnext]
    have hlt : m.length < count := by simpa using hcount
    have hrest := ih (a := a ++ [next]) hm hlt
    simpa [Nat.add_assoc, Nat.add_comm 1] using hrest

/-! ## Rows of one rule -/

theorem rowsOf_append_cons (before after : List PlainRule) (r : PlainRule) (emptyRows : Nat) :
    rowsOf (before ++ r :: after) emptyRows =
      before.flatMap PlainRule.rows ++
        (r.headRow :: r.pairs.map declarationRow) ++ ['}'] :: rowsOf after emptyRows := by
  simp [rowsOf, PlainRule.rows]

/-- A rule is anchored at its selector, which stands in no row above. -/
theorem anchor_rows (h : IsLayout (before ++ r :: after)) (emptyRows : Nat) :
    anchor (rowsOf (before ++ r :: after) emptyRows) r.selector =
      (before.flatMap PlainRule.rows).length := by
  have hr : r ∈ before ++ r :: after := List.mem_append_right _ List.mem_cons_self
  have hne : r.selector.isEmpty = false := by
    rw [← Bool.not_eq_true, String.isEmpty_iff]
    exact (h.rule r hr).selector.ne
  have habove : ∀ row ∈ before.flatMap PlainRule.rows, contains r.selector.toList row = false := by
    intro row hrow
    obtain ⟨earlier, hearlier, hrow⟩ := List.mem_flatMap.1 hrow
    have hapart := (List.pairwise_append.1 h.apart).2.2 earlier hearlier r List.mem_cons_self
    exact contains_eq_false_iff.2 (hapart row hrow)
  have hhead : contains r.selector.toList r.headRow := by
    rw [← Bool.not_eq_false, contains_eq_false_iff, not_not]
    exact (List.prefix_append _ _).isInfix
  rw [anchor, hne, rowsOf_append_cons, List.append_assoc, List.cons_append,
    findIdx?_append_cons habove hhead]
  rfl

/-- The rows of a rule end with its closing brace. -/
theorem blockEnd_rows (h : r.IsLaidOut) (emptyRows : Nat) :
    blockEnd (rowsOf (before ++ r :: after) emptyRows) (before.flatMap PlainRule.rows).length =
      (before.flatMap PlainRule.rows).length + (r.pairs.length + 1) := by
  have hopen : ∀ row ∈ r.headRow :: r.pairs.map declarationRow, row.contains '}' = false := by
    intro row hrow
    rw [← Bool.not_eq_true, List.contains_iff_mem]
    rcases List.mem_cons.1 hrow with rfl | hrow
    · exact h.not_mem_headRow (by decide)
    · obtain ⟨p, hp, rfl⟩ := List.mem_map.1 hrow
      exact h.not_mem_declarationRow hp (by decide)
  have hclose : ['}'].contains '}' := by decide
  rw [blockEnd, rowsOf_append_cons, List.append_assoc, List.drop_left,
    findIdx?_append_cons (p := fun row : List Char => row.contains '}') hopen hclose]
  simp

/-- The search for a declaration passes over the selector and over the declarations in front. -/
theorem columnsIn?_rows (h : r.IsLaidOut) (hpairs : r.pairs = ps ++ (property, value) :: qs)
    (hne : property ≠ "") :
    ∀ row ∈ r.headRow :: ps.map declarationRow,
      columnsIn? (propertyPattern property) row = none := by
  have hproperty : (property, value) ∈ r.pairs := by
    rw [hpairs]
    exact List.mem_append_right _ List.mem_cons_self
  intro row hrow
  rw [columnsIn?, Option.map_eq_none_iff]
  rcases List.mem_cons.1 hrow with rfl | hrow
  · have hselector : pixelWord.first? r.selector.toList = none := by
      simpa [Pattern.occursIn] using h.selector_noPixels
    exact first?_propertyPattern_eq_none (first?_pixelWord_eq_none hselector (by simp))
  · obtain ⟨p, hp, rfl⟩ := List.mem_map.1 hrow
    have hmem : p ∈ r.pairs := by
      rw [hpairs]
      exact List.mem_append_left _ hp
    cases hfirst : (propertyPattern property).first? (declarationRow p) with
    | none => rfl
    | some e =>
      obtain ⟨rfl, -⟩ := name_of_first? hne (h.name _ hproperty) (h.name p hmem)
        (h.value_noColon p hmem) hfirst
      -- Names come once in a rule.
      have hnames := h.names
      rw [hpairs, List.map_append, List.map_cons, List.nodup_append] at hnames
      exact absurd rfl (hnames.2.2 p.1 (List.mem_map_of_mem hp) p.1 List.mem_cons_self)

/-- The rows above the one of a declaration, and the rows under it. -/
theorem rowsOf_append_row (before after : List PlainRule)
    (hpairs : r.pairs = ps ++ (property, value) :: qs) (emptyRows : Nat) :
    rowsOf (before ++ r :: after) emptyRows =
      before.flatMap PlainRule.rows ++ ((r.headRow :: ps.map declarationRow) ++
        declarationRow (property, value) ::
          (qs.map declarationRow ++ ['}'] :: rowsOf after emptyRows)) := by
  rw [rowsOf_append_cons, hpairs]
  simp

/-- The search for a declaration with a pixel length comes to its own row. -/
theorem searchFrom_rows (before after : List PlainRule) (h : r.IsLaidOut)
    (hpairs : r.pairs = ps ++ (property, value) :: qs) (hne : property ≠ "")
    (he : pixelWord.first? value.toList = some e) (emptyRows : Nat) :
    searchFrom (rowsOf (before ++ r :: after) emptyRows) (patternFor (some property))
        (before.flatMap PlainRule.rows).length (r.pairs.length + 2) =
      some ((before.flatMap PlainRule.rows).length + (ps.length + 1),
        ⟨2 + (property.toList.length + 2 + e.start), e.length⟩) := by
  have hproperty : (property, value) ∈ r.pairs := by
    rw [hpairs]
    exact List.mem_append_right _ List.mem_cons_self
  have hpattern : patternFor (some property) = propertyPattern property := by
    rw [patternFor, Option.filter_some_pos]
    simpa using hne
  have hcolumns := columnsIn?_declarationRow hne (h.name _ hproperty)
    (h.value_noColon _ hproperty) (h.value_noSemicolon _ hproperty) he
  have hcount : (r.headRow :: ps.map declarationRow).length < r.pairs.length + 2 := by
    rw [hpairs, List.length_append, List.length_cons, List.length_cons, List.length_map]
    omega
  rw [hpattern, rowsOf_append_row before after hpairs,
    searchFrom_append (columnsIn?_rows h hpairs hne) hcolumns hcount,
    List.length_cons, List.length_map]

/-- The columns in the row of a declaration spell the first pixel length of the value. -/
theorem cut_declarationRow (property : String) (he : pixelWord.first? value.toList = some e) :
    Extent.cut ⟨2 + (property.toList.length + 2 + e.start), e.length⟩
      (declarationRow (property, value)) = e.cut value.toList := by
  obtain ⟨a, u, b, hvalue, rfl, -⟩ := first?_pixelWord_eq_some he
  have hrow : declarationRow (property, value) =
      (' ' :: ' ' :: (property.toList ++ ':' :: ' ' :: a)) ++ (u ++ (b ++ [';'])) := by
    rw [declarationRow, hvalue]
    simp
  have hstart : 2 + (property.toList.length + 2 + a.length) =
      (' ' :: ' ' :: (property.toList ++ ':' :: ' ' :: a)).length := by
    simp only [List.length_cons, List.length_append]
    omega
  rw [hrow, hstart, cut_append, hvalue, cut_append]

end Position

/-! ## Findings -/

open Position

/-- The finding stands where a rule declares its property: it has the row of the declaration and
the columns of the first pixel length of the value. -/
def Finding.StandsAt (f : Finding) (rules : List PlainRule) (source property value : String) :
    Prop :=
  ∃ before r after ps qs e, ∃ index start : Nat,
    rules = before ++ r :: after ∧ r.selector = f.selector ∧
    r.pairs = ps ++ (property, value) :: qs ∧ pixelWord.first? value.toList = some e ∧
    index = (before.flatMap PlainRule.rows).length + (ps.length + 1) ∧
    (lines source.toList)[index]? = some (declarationRow (property, value)) ∧
    f.line = some ((index : Int) + 1) ∧
    f.span = some (lineSpan index start (start + e.length)) ∧
    Extent.cut ⟨start, e.length⟩ (declarationRow (property, value)) = e.cut value.toList

variable {rules : List PlainRule} {emptyRows : Nat} {s : Settings} {checks : List Check}
  {property value : String}

/-- A finding about a declaration with a pixel length is located in its row. -/
theorem Finding.locate_rows {f : Finding} {before after : List PlainRule} {r : PlainRule}
    {ps qs : List (String × String)} {e : Extent} (h : IsLayout (before ++ r :: after))
    (hselector : f.selector = r.selector) (hproperty : f.property = some property)
    (hne : property ≠ "") (hpairs : r.pairs = ps ++ (property, value) :: qs)
    (he : pixelWord.first? value.toList = some e) (emptyRows : Nat) :
    f.locate (rowsOf (before ++ r :: after) emptyRows) =
      ((((before.flatMap PlainRule.rows).length + (ps.length + 1) : Nat) : Int) + 1,
        lineSpan ((before.flatMap PlainRule.rows).length + (ps.length + 1))
          (2 + (property.toList.length + 2 + e.start))
          (2 + (property.toList.length + 2 + e.start) + e.length)) := by
  have hlaid := h.rule r (List.mem_append_right _ List.mem_cons_self)
  have hcount : (before.flatMap PlainRule.rows).length + (r.pairs.length + 1) + 1 -
      (before.flatMap PlainRule.rows).length = r.pairs.length + 2 := by
    omega
  unfold locate
  dsimp only
  rw [hselector, anchor_rows h, blockEnd_rows hlaid, hproperty, hcount,
    searchFrom_rows before after hlaid hpairs hne he]
  rfl

/-- A finding about a declaration with a pixel length is placed at it. -/
theorem Finding.standsAt_place {f : Finding} (h : IsLayout rules) {r : PlainRule} (hr : r ∈ rules)
    (hselector : f.selector = r.selector) (hpair : (property, value) ∈ r.pairs)
    (hproperty : f.property = some property) (hne : property ≠ "") (hfixed : isFixed value)
    (emptyRows : Nat) :
    (f.place (lines (layout rules emptyRows).toList)).StandsAt rules (layout rules emptyRows)
      property value := by
  obtain ⟨before, after, rfl⟩ := List.append_of_mem hr
  obtain ⟨ps, qs, hpairs⟩ := List.append_of_mem hpair
  obtain ⟨e, he⟩ := exists_pixelWord_of_isFixed hfixed
  have hlines := lines_layout h.rule (List.ne_nil_of_mem hr) emptyRows
  have hlocate := f.locate_rows h hselector hproperty hne hpairs he emptyRows
  refine ⟨before, r, after, ps, qs, e, _, _, rfl, hselector.symm, hpairs, he, rfl, ?_, ?_, ?_,
    cut_declarationRow property he⟩
  · rw [hlines, rowsOf_append_row before after hpairs]
    simp
  · rw [hlines, place, hlocate]
    rfl
  · rw [hlines, place, hlocate]
    rfl

/-- In a laid out stylesheet each selector has one rule, so no two rules disagree. -/
theorem mediaConflicts_layout (h : IsLayout rules) (emptyRows : Nat) :
    (Stylesheet.parse (layout rules emptyRows)).mediaConflicts = [] := by
  have hparse := parse_layout h.rule emptyRows
  refine mediaConflicts_eq_nil ?_ ?_
  · rw [hparse, List.map_map, List.Nodup, List.pairwise_map]
    refine h.apart.imp fun {earlier r} hapart hselector => ?_
    have hselector : earlier.selector = r.selector := hselector
    refine hapart earlier.headRow List.mem_cons_self ?_
    rw [PlainRule.headRow, hselector]
    exact (List.prefix_append _ _).isInfix
  · rw [hparse]
    intro r hr
    obtain ⟨r', hr', rfl⟩ := List.mem_map.1 hr
    exact (h.rule r' hr').names

/-- No rule of a laid out stylesheet stands in a media block, so no width is compared. -/
theorem exists_detect_layout (h : ∀ r ∈ rules, r.IsLaidOut) (emptyRows : Nat) (s : Settings)
    (checks : List Check) :
    ∃ found, detect s (Stylesheet.parse (layout rules emptyRows)) checks = .ok found := by
  refine exists_detect_of_no_media fun r hr => ?_
  rw [parse_layout h] at hr
  obtain ⟨r, -, rfl⟩ := List.mem_map.1 hr
  rfl

/-- In a laid out stylesheet, every finding about a fixed value stands where it is declared. -/
theorem standsAt_of_layout (h : IsLayout rules) (emptyRows : Nat) (s : Settings)
    (checks : List Check) :
    ∃ found, detect s (Stylesheet.parse (layout rules emptyRows)) checks = .ok found ∧
      ∀ f ∈ placeAll (found.flatMap (·.2)) (layout rules emptyRows), ∀ property value,
        f.property = some property → f.value = some value → isFixed value →
          f.StandsAt rules (layout rules emptyRows) property value := by
  have hparse := parse_layout h.rule emptyRows
  obtain ⟨found, hfound⟩ := exists_detect_layout h.rule emptyRows s checks
  refine ⟨found, hfound, ?_⟩
  intro f hf property value hproperty hvalue hfixed
  obtain ⟨g, hg, rfl⟩ := List.mem_map.1 hf
  have hproperty : g.property = some property := hproperty
  have hvalue : g.value = some value := hvalue
  obtain ⟨check, list, hrun, hg⟩ := exists_run_of_mem_detect hfound hg
  have hne : property ≠ "" := by
    rcases Check.property_ne_of_mem_run hrun hg with hconflict | hne
    · rw [mediaConflicts_layout h] at hconflict
      cases hconflict
    · rintro rfl
      exact hne hproperty
  rcases Check.exists_backs_of_mem_run hrun hg with rfl | ⟨r, hr, hselector, d, hd, hd₁, hd₂⟩
  · cases hvalue
    exact absurd hfixed (by decide +kernel)
  · rw [hparse] at hr
    obtain ⟨r', hr', rfl⟩ := List.mem_map.1 hr
    cases hproperty.symm.trans hd₁
    cases hvalue.symm.trans hd₂
    exact g.standsAt_place h hr' hselector hd hproperty hne hfixed emptyRows

/-- A value with two pixel lengths, under a longer name with one. -/
theorem standsAt_of_layout_two :
    let rules : List PlainRule :=
      [⟨".a", [("max-width", "9px"), ("width", "calc(1px + 70px)")]⟩, ⟨".b", [("width", "80px")]⟩]
    IsLayout rules ∧
      ∃ found, detect .standard (Stylesheet.parse (layout rules 1)) Check.all = .ok found ∧
        ∃ f ∈ placeAll (found.flatMap (·.2)) (layout rules 1),
          f.property = some "width" ∧ f.value = some "calc(1px + 70px)" ∧
          f.StandsAt rules (layout rules 1) "width" "calc(1px + 70px)" := by
  intro rules
  have hlayout : IsLayout rules := by decide +kernel
  obtain ⟨found, hfound, hplaces⟩ := standsAt_of_layout hlayout 1 .standard Check.all
  have hany : (detect .standard (Stylesheet.parse (layout rules 1)) Check.all).toOption.any
      fun found => (placeAll (found.flatMap (·.2)) (layout rules 1)).any fun f =>
        f.property = some "width" ∧ f.value = some "calc(1px + 70px)" := by
    decide +kernel
  rw [hfound] at hany
  obtain ⟨f, hf, h⟩ := List.any_eq_true.1 hany
  obtain ⟨hproperty, hvalue⟩ := of_decide_eq_true h
  exact ⟨hlayout, found, hfound, f, hf, hproperty, hvalue,
    hplaces f hf _ _ hproperty hvalue (by decide +kernel)⟩

end Reflow
