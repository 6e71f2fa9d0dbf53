import Reflow.Proofs.Stylesheet.Printing
import Reflow.Proofs.Length.Pixels

/-!
# Stylesheets laid out in rows

The usual layout of a stylesheet gives a row to each selector with its opening brace, to each
declaration, indented by two spaces, and to each closing brace. Reading gives the rules back as they
were laid out, and the lines of the source are the rows.

* `PlainRule.rows`, `layout`: the rows of a rule, and the source text of several rules.
* `IsLayout`: no part of a rule has a character or word that ends it early, and no selector stands
  in a row above its own.
* `parse_layout`, `lines_layout`: the rules and the lines of a laid out stylesheet.
-/

namespace Reflow.Stylesheet

open Text

/-! ## Rows -/

/-- The row of a declaration. -/
def declarationRow (p : String × String) : List Char :=
  ' ' :: ' ' :: (p.1.toList ++ ':' :: ' ' :: (p.2.toList ++ [';']))

namespace PlainRule

/-- The row of a selector. -/
def headRow (r : PlainRule) : List Char := r.selector.toList ++ [' ', '{']

/-- The rows of a rule. -/
def rows (r : PlainRule) : List (List Char) :=
  r.headRow :: (r.pairs.map declarationRow ++ [['}']])

/-- The rule with its parts taken as they stand. -/
def asRule (r : PlainRule) : Rule := ⟨r.selector, r.pairs, none⟩

end PlainRule

/-- The rows of rules, one rule under the other, and empty rows behind them. -/
def rowsOf (rules : List PlainRule) (emptyRows : Nat) : List (List Char) :=
  rules.flatMap PlainRule.rows ++ List.replicate emptyRows []

/-- The source text of rules laid out in rows. -/
def layout (rules : List PlainRule) (emptyRows : Nat) : String :=
  String.ofList (List.intercalate ['\n'] (rowsOf rules emptyRows))

/-! ## Parts that keep to their rows -/

/-- A text that is not empty, has no blanks at its ends, starts no comment or media block and has
no brace and no line feed. -/
structure IsPart (s : String) : Prop where
  ne : s ≠ ""
  trimmed : trim s.toList = s.toList
  noMark : ∀ c ∈ ['\n', '{', '}', '@'], c ∉ s.toList
  noComment : ¬ ['/', '*'] <:+: s.toList

/-- A rule whose parts keep to their rows, with no pixel length in its selector. -/
structure PlainRule.IsLaidOut (r : PlainRule) : Prop where
  selector : IsPart r.selector
  selector_noPixels : Length.pixelWord.occursIn r.selector.toList = false
  name : ∀ p ∈ r.pairs, ∀ c ∈ p.1.toList, isNameCharacter c
  names : (r.pairs.map (·.1)).Nodup
  value : ∀ p ∈ r.pairs, IsPart p.2
  value_noColon : ∀ p ∈ r.pairs, ':' ∉ p.2.toList
  value_noSemicolon : ∀ p ∈ r.pairs, ';' ∉ p.2.toList

/-- Rules whose parts keep to their rows, with no selector in a row of an earlier rule. -/
structure IsLayout (rules : List PlainRule) : Prop where
  rule : ∀ r ∈ rules, r.IsLaidOut
  apart : rules.Pairwise fun earlier r => ∀ row ∈ earlier.rows, ¬ r.selector.toList <:+: row

instance (s : String) : Decidable (IsPart s) :=
  decidable_of_iff (s ≠ "" ∧ trim s.toList = s.toList ∧
      (['\n', '{', '}', '@'].all fun c => !s.toList.contains c) ∧
      contains ['/', '*'] s.toList = false)
    ⟨fun ⟨h₁, h₂, h₃, h₄⟩ => ⟨h₁, h₂, by simpa using h₃, contains_eq_false_iff.1 h₄⟩,
      fun ⟨h₁, h₂, h₃, h₄⟩ => ⟨h₁, h₂, by simpa using h₃, contains_eq_false_iff.2 h₄⟩⟩

instance (r : PlainRule) : Decidable r.IsLaidOut :=
  decidable_of_iff (IsPart r.selector ∧ Length.pixelWord.occursIn r.selector.toList = false ∧
      (r.pairs.map (·.1)).Nodup ∧ ∀ p ∈ r.pairs, p.1.toList.all isNameCharacter ∧
        IsPart p.2 ∧ ':' ∉ p.2.toList ∧ ';' ∉ p.2.toList)
    ⟨fun ⟨h₁, h₂, h₃, h⟩ => ⟨h₁, h₂, fun p hp => List.all_eq_true.1 (h p hp).1, h₃,
      fun p hp => (h p hp).2.1, fun p hp => (h p hp).2.2.1, fun p hp => (h p hp).2.2.2⟩,
    fun ⟨h₁, h₂, h₃, h₄, h₅, h₆, h₇⟩ => ⟨h₁, h₂, h₄, fun p hp =>
      ⟨List.all_eq_true.2 (h₃ p hp), h₅ p hp, h₆ p hp, h₇ p hp⟩⟩⟩

instance (rules : List PlainRule) : Decidable (IsLayout rules) :=
  decidable_of_iff ((∀ r ∈ rules, r.IsLaidOut) ∧ rules.Pairwise fun earlier r =>
      earlier.rows.all fun row => !contains r.selector.toList row)
    ⟨fun ⟨h₁, h₂⟩ => ⟨h₁, h₂.imp fun h row hrow =>
        contains_eq_false_iff.1 (by simpa using List.all_eq_true.1 h row hrow)⟩,
      fun ⟨h₁, h₂⟩ => ⟨h₁, h₂.imp fun h => List.all_eq_true.2 fun row hrow => by
        simpa using contains_eq_false_iff.2 (h row hrow)⟩⟩

/-! ## What no row has -/

section Rows

variable {r : PlainRule} {p : String × String} {row : List Char} {c : Char}

theorem mem_rows :
    row ∈ r.rows ↔ row = r.headRow ∨ (∃ p ∈ r.pairs, declarationRow p = row) ∨ row = ['}'] := by
  simp [PlainRule.rows]

theorem mem_declarationRow :
    c ∈ declarationRow p ↔ c = ' ' ∨ c ∈ p.1.toList ∨ c = ':' ∨ c ∈ p.2.toList ∨ c = ';' := by
  simp only [declarationRow, List.mem_cons, List.mem_append, List.not_mem_nil, or_false]
  tauto

/-- The row of a declaration has one colon, so there is one way to cut it there. -/
theorem eq_of_declarationRow {a b : List Char} (hname : ∀ c ∈ p.1.toList, isNameCharacter c)
    (hvalue : ':' ∉ p.2.toList) (h : declarationRow p = a ++ ':' :: b) :
    a = ' ' :: ' ' :: p.1.toList ∧ b = ' ' :: (p.2.toList ++ [';']) := by
  have hindented : ':' ∉ ' ' :: ' ' :: p.1.toList := by
    have hcolon : ':' ∉ p.1.toList := fun hc => absurd (hname _ hc) (by decide)
    simpa using hcolon
  have hbehind : ':' ∉ ' ' :: (p.2.toList ++ [';']) := by simpa using hvalue
  have hrow : (' ' :: ' ' :: p.1.toList) ++ ':' :: (' ' :: (p.2.toList ++ [';'])) =
      a ++ ':' :: b := h
  obtain ⟨hfront, -, hback⟩ := (List.append_cons_inj_of_notMem hindented hbehind).1 hrow
  exact ⟨hfront.symm, hback.symm⟩

theorem mem_headRow : c ∈ r.headRow ↔ c ∈ r.selector.toList ∨ c = ' ' ∨ c = '{' := by
  simp [PlainRule.headRow]

namespace PlainRule.IsLaidOut

variable (h : r.IsLaidOut)
include h

theorem not_mem_headRow (hc : c ∈ ['\n', '}', '@']) : c ∉ r.headRow := by
  have hsub : c ∈ ['\n', '{', '}', '@'] ∧ c ≠ ' ' ∧ c ≠ '{' := by
    simp only [List.mem_cons, List.not_mem_nil, or_false] at hc
    rcases hc with rfl | rfl | rfl <;> decide
  rw [mem_headRow, not_or, not_or]
  exact ⟨h.selector.noMark c hsub.1, hsub.2⟩

theorem not_mem_declarationRow (hp : p ∈ r.pairs) (hc : c ∈ ['\n', '{', '}', '@']) :
    c ∉ declarationRow p := by
  have hne : c ≠ ' ' ∧ isNameCharacter c = false ∧ c ≠ ':' ∧ c ≠ ';' := by
    simp only [List.mem_cons, List.not_mem_nil, or_false] at hc
    rcases hc with rfl | rfl | rfl | rfl <;> decide
  obtain ⟨hspace, hname, hcolon, hsemicolon⟩ := hne
  rw [mem_declarationRow, not_or, not_or, not_or, not_or]
  refine ⟨hspace, fun hn => ?_, hcolon, (h.value p hp).noMark c hc, hsemicolon⟩
  rw [h.name p hp c hn] at hname
  cases hname

theorem not_mem_of_mem_rows (hrow : row ∈ r.rows) (hc : c ∈ ['\n', '@']) : c ∉ row := by
  have hsub : c ∈ ['\n', '}', '@'] ∧ c ∈ ['\n', '{', '}', '@'] ∧ c ∉ ['}'] := by
    simp only [List.mem_cons, List.not_mem_nil, or_false] at hc
    rcases hc with rfl | rfl <;> decide
  rcases mem_rows.1 hrow with rfl | ⟨p, hp, rfl⟩ | rfl
  · exact h.not_mem_headRow hsub.1
  · exact h.not_mem_declarationRow hp hsub.2.1
  · exact hsub.2.2

theorem noComment_of_mem_rows (hrow : row ∈ r.rows) : ¬ ['/', '*'] <:+: row := by
  have hnil : ¬ ['/', '*'] <:+: [] := by decide
  rcases mem_rows.1 hrow with rfl | ⟨p, hp, rfl⟩ | rfl
  · have hbrace : ¬ ['/', '*'] <:+: ['{'] := by decide
    exact not_infix_append_cons (by decide) h.selector.noComment hbrace
  · have hname : ¬ ['/', '*'] <:+: p.1.toList := by
      intro hi
      have := h.name p hp '/' (hi.subset List.mem_cons_self)
      exact absurd this (by decide)
    have hvalue := not_infix_append_cons (c := ';') (by decide) (h.value p hp).noComment hnil
    have hrest := not_infix_append_cons (c := ':') (by decide) hname
      (not_infix_append_cons (c := ' ') (by decide) hnil hvalue)
    exact not_infix_append_cons (by decide) hnil (not_infix_append_cons (by decide) hnil hrest)
  · decide

end PlainRule.IsLaidOut

end Rows

/-! ## Reading -/

variable {rules : List PlainRule} {r : PlainRule} {emptyRows : Nat}

/-- The row of a declaration with its line feed is read as the declaration. -/
theorem splitAt_declarationRow {p : String × String} (hname : ∀ c ∈ p.1.toList, isNameCharacter c)
    (hmark : ';' ∉ p.2.toList) (s : List Char) :
    splitAt ';' ('\n' :: (declarationRow p ++ s)) =
      (['\n', ' ', ' '] ++ p.1.toList ++ ':' :: ' ' :: p.2.toList) :: splitAt ';' s := by
  have hn : ';' ∉ p.1.toList := fun hc => absurd (hname _ hc) (by decide)
  have hpiece : ';' ∉ ['\n', ' ', ' '] ++ p.1.toList ++ ':' :: ' ' :: p.2.toList := by
    simp [hn, hmark]
  have htext : '\n' :: (declarationRow p ++ s) =
      (['\n', ' ', ' '] ++ p.1.toList ++ ':' :: ' ' :: p.2.toList) ++ ';' :: s := by
    simp [declarationRow]
  rw [htext, splitAt_append_cons, splitAt_of_not_mem hpiece, List.singleton_append]

theorem declaration?_declarationRow {p : String × String}
    (hname : ∀ c ∈ p.1.toList, isNameCharacter c) (hvalue : trim p.2.toList = p.2.toList) :
    declaration? (['\n', ' ', ' '] ++ p.1.toList ++ ':' :: ' ' :: p.2.toList) = some p := by
  have hcolon : ':' ∉ ['\n', ' ', ' '] ++ p.1.toList := by
    have hn : ':' ∉ p.1.toList := fun hc => absurd (hname _ hc) (by decide)
    simp [hn]
  have hblank : ∀ c ∈ p.1.toList, isBlank c = false := fun c hc =>
    not_isBlank_of_isNameCharacter (hname c hc)
  have htrim : trim (' ' :: p.2.toList) = p.2.toList :=
    (trim_append_left (a := [' ']) (List.all_eq_true.1 (by decide)) _).trans hvalue
  have hindent : ∀ c ∈ ['\n', ' ', ' '], isBlank c := List.all_eq_true.1 (by decide)
  rw [declaration?_append hcolon, trim_append_left hindent, trim_of_no_blank hblank,
    lower_of_isNameCharacter hname, htrim, String.ofList_toList, String.ofList_toList]

/-- The rows of declarations are read one by one. The last line feed is no declaration. -/
theorem filterMap_declaration?_rows {pairs : List (String × String)}
    (hname : ∀ p ∈ pairs, ∀ c ∈ p.1.toList, isNameCharacter c)
    (hvalue : ∀ p ∈ pairs, trim p.2.toList = p.2.toList)
    (hmark : ∀ p ∈ pairs, ';' ∉ p.2.toList) :
    (splitAt ';' (marked '\n' (pairs.map declarationRow) ++ ['\n'])).filterMap declaration? =
      pairs := by
  induction pairs with
  | nil => decide
  | cons p pairs ih =>
    rw [List.forall_mem_cons] at hname hvalue hmark
    rw [List.map_cons, marked_cons, List.cons_append, List.append_assoc,
      splitAt_declarationRow hname.1 hmark.1,
      List.filterMap_cons_some (declaration?_declarationRow hname.1 hvalue.1),
      ih hname.2 hvalue.2 hmark.2]

/-- Pairs of different names are declared as they stand. -/
theorem ofPairs_of_nodup {pairs : List (String × String)} (h : (pairs.map (·.1)).Nodup) :
    Declarations.ofPairs pairs = pairs := by
  induction pairs using List.reverseRecOn with
  | nil => rfl
  | append_singleton pairs p ih =>
    rw [List.map_append, List.map_singleton, List.nodup_append] at h
    obtain ⟨hpairs, -, hapart⟩ := h
    have hp : p.1 ∉ pairs.map (·.1) := fun hmem => hapart _ hmem _ (List.mem_singleton_self _) rfl
    rw [Declarations.ofPairs, List.foldl_append]
    show (Declarations.ofPairs pairs).declare p.1 p.2 = pairs ++ [p]
    rw [ih hpairs, Declarations.declare_of_not_mem hp]

/-- The rows of a rule are read as the rule, whatever blanks stand in front of them. -/
theorem rulesOf_rows (h : r.IsLaidOut) {lead : List Char} (hblank : ∀ c ∈ lead, isBlank c)
    (rows : List (List Char)) :
    rulesOf none (lead ++ r.headRow ++ marked '\n' (r.pairs.map declarationRow ++ ['}'] :: rows)) =
      r.asRule :: rulesOf none (marked '\n' rows) := by
  have htext : lead ++ r.headRow ++ marked '\n' (r.pairs.map declarationRow ++ ['}'] :: rows) =
      (lead ++ (r.selector.toList ++ [' '])) ++ '{' ::
        ((marked '\n' (r.pairs.map declarationRow) ++ ['\n']) ++ '}' :: marked '\n' rows) := by
    simp [PlainRule.headRow, marked_append, marked_cons]
  have hopen : '{' ∉ lead ++ (r.selector.toList ++ [' ']) := by
    have hlead : '{' ∉ lead := fun hc => absurd (hblank _ hc) (by decide)
    have hselector := h.selector.noMark '{' (by decide)
    simp [hlead, hselector]
  have hclose : '}' ∉ marked '\n' (r.pairs.map declarationRow) ++ ['\n'] := by
    intro hc
    rcases List.mem_append.1 hc with hc | hc
    · obtain ⟨row, hrow, hc⟩ := List.mem_flatMap.1 hc
      obtain ⟨p, hp, rfl⟩ := List.mem_map.1 hrow
      rcases List.mem_cons.1 hc with hc | hc
      · cases hc
      · exact h.not_mem_declarationRow hp (by decide) hc
    · exact absurd hc (by decide)
  have hselector : trim (lead ++ (r.selector.toList ++ [' '])) = r.selector.toList := by
    have hspace : ∀ c ∈ [' '], isBlank c := List.all_eq_true.1 (by decide)
    rw [trim_append_left hblank, trim_append_right hspace, h.selector.trimmed]
  have hdeclarations : declarations (marked '\n' (r.pairs.map declarationRow) ++ ['\n']) =
      r.pairs := by
    rw [declarations, filterMap_declaration?_rows h.name (fun p hp => (h.value p hp).trimmed)
      h.value_noSemicolon, ofPairs_of_nodup h.names]
  rw [htext, rulesOf, flatRules_append (by simp) hopen hclose, List.map_cons]
  dsimp only
  rw [hselector, hdeclarations, String.ofList_toList]
  rfl

theorem rowsOf_cons (r : PlainRule) (rules : List PlainRule) (emptyRows : Nat) :
    rowsOf (r :: rules) emptyRows =
      r.headRow :: (r.pairs.map declarationRow ++ ['}'] :: rowsOf rules emptyRows) := by
  simp [rowsOf, PlainRule.rows]

theorem rulesOf_of_not_mem {s : List Char} (h : '{' ∉ s) : rulesOf none s = [] := by
  rw [rulesOf, flatRules_of_not_mem h, List.map_nil]

theorem rulesOf_marked (h : ∀ r ∈ rules, r.IsLaidOut) (emptyRows : Nat) :
    rulesOf none (marked '\n' (rowsOf rules emptyRows)) = rules.map PlainRule.asRule := by
  induction rules with
  | nil =>
    refine rulesOf_of_not_mem fun hc => ?_
    obtain ⟨row, hrow, hc⟩ := List.mem_flatMap.1 hc
    rw [(List.mem_replicate.1 hrow).2] at hc
    exact absurd hc (by decide)
  | cons r rules ih =>
    obtain ⟨hr, hrules⟩ := List.forall_mem_cons.1 h
    have hblank : ∀ c ∈ ['\n'], isBlank c := List.all_eq_true.1 (by decide)
    rw [rowsOf_cons, marked_cons, List.map_cons, ← ih hrules]
    exact rulesOf_rows hr hblank _

theorem rulesOf_layout (h : ∀ r ∈ rules, r.IsLaidOut) (emptyRows : Nat) :
    rulesOf none (layout rules emptyRows).toList = rules.map PlainRule.asRule := by
  rw [layout, String.toList_ofList]
  cases rules with
  | nil =>
    refine rulesOf_of_not_mem fun hc => ?_
    rcases mem_intercalate hc with hc | ⟨row, hrow, hc⟩
    · exact absurd hc (by decide)
    · rw [(List.mem_replicate.1 hrow).2] at hc
      exact absurd hc (by decide)
  | cons r rules =>
    obtain ⟨hr, hrules⟩ := List.forall_mem_cons.1 h
    have hblank : ∀ c ∈ [], isBlank c := List.all_eq_true.1 (by decide)
    rw [rowsOf_cons, intercalate_cons, List.map_cons, ← rulesOf_marked hrules emptyRows]
    exact rulesOf_rows hr hblank _

/-! ## Whole sources -/

theorem mem_rowsOf {row : List Char} (h : row ∈ rowsOf rules emptyRows) :
    (∃ r ∈ rules, row ∈ r.rows) ∨ row = [] := by
  rcases List.mem_append.1 h with h | h
  · exact .inl (List.mem_flatMap.1 h)
  · exact .inr (List.mem_replicate.1 h).2

/-- A laid out stylesheet is read as its rules. -/
theorem parse_layout (h : ∀ r ∈ rules, r.IsLaidOut) (emptyRows : Nat) :
    (parse (layout rules emptyRows)).rules = rules.map PlainRule.asRule := by
  have hcomment : ¬ ['/', '*'] <:+: (layout rules emptyRows).toList := by
    rw [layout, String.toList_ofList]
    refine not_infix_intercalate (by decide) (by decide) fun row hrow => ?_
    rcases mem_rowsOf hrow with ⟨r, hr, hrow⟩ | rfl
    · exact (h r hr).noComment_of_mem_rows hrow
    · decide
  have hmedia : ¬ mediaWord <:+: (layout rules emptyRows).toList := by
    intro hi
    have hc : '@' ∈ (layout rules emptyRows).toList := hi.subset (by decide)
    rw [layout, String.toList_ofList] at hc
    rcases mem_intercalate hc with hc | ⟨row, hrow, hc⟩
    · exact absurd hc (by decide)
    rcases mem_rowsOf hrow with ⟨r, hr, hrow⟩ | rfl
    · exact (h r hr).not_mem_of_mem_rows hrow (by decide) hc
    · cases hc
  rw [parse, stripComments_of_not_infix hcomment, MediaSplit.of_not_infix hmedia]
  show rulesOf none (layout rules emptyRows).toList ++ [] = _
  rw [rulesOf_layout h, List.append_nil]

/-- The lines of a laid out stylesheet are its rows. -/
theorem lines_layout (h : ∀ r ∈ rules, r.IsLaidOut) (hne : rules ≠ []) (emptyRows : Nat) :
    lines (layout rules emptyRows).toList = rowsOf rules emptyRows := by
  obtain ⟨r, rules', rfl⟩ := List.exists_cons_of_ne_nil hne
  rw [layout, String.toList_ofList, lines]
  refine splitAt_intercalate ?_ fun row hrow => ?_
  · rw [rowsOf_cons]
    exact List.cons_ne_nil _ _
  · rcases mem_rowsOf hrow with ⟨r, hr, hrow⟩ | rfl
    · exact (h r hr).not_mem_of_mem_rows hrow (by decide)
    · exact List.not_mem_nil

end Reflow.Stylesheet
