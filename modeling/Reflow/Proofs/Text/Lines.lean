import Reflow.Proofs.Text.Columns
import Reflow.Proofs.Text.Occurrence

/-!
# Texts of one line

* `lines_intercalate`: rows put one under the other have the lines of each in turn, so there are as
  many lines as rows exactly if every row is a line (`length_lines_eq_iff`).
* `infix_intercalate`: each row stands in the whole.
* `IsLine.append`, `IsLine.intercalate`, `IsLine.fill`, `IsLine.truncate`, `IsLine.pad`,
  `IsLine.upper` and others: what is made of lines is a line.
-/

namespace Reflow.Text

/-- A text without a line feed. -/
def IsLine (s : String) : Prop := '\n' ∉ s.toList

instance (s : String) : Decidable (IsLine s) := inferInstanceAs (Decidable ('\n' ∉ s.toList))

variable {s t : String} {rows : List String}

/-! ## Rows one under the other -/

theorem lines_of_isLine (h : IsLine s) : lines s.toList = [s.toList] := splitAt_of_not_mem h

theorem intercalate_append (sep : String) {a b : List String} (ha : a ≠ []) (hb : b ≠ []) :
    sep.intercalate (a ++ b) = sep.intercalate a ++ sep ++ sep.intercalate b := by
  induction a with
  | nil => exact absurd rfl ha
  | cons row a ih =>
    cases a with
    | nil =>
      obtain ⟨next, b, rfl⟩ := List.exists_cons_of_ne_nil hb
      rw [List.singleton_append, String.intercalate_cons_cons, String.intercalate_singleton]
    | cons next a =>
      rw [List.cons_append, List.cons_append, String.intercalate_cons_cons, ← List.cons_append,
        ih (List.cons_ne_nil _ _), String.intercalate_cons_cons]
      simp only [String.append_assoc]

theorem lines_intercalate (h : rows ≠ []) :
    lines ("\n".intercalate rows).toList = rows.flatMap fun r => lines r.toList := by
  induction rows with
  | nil => exact absurd rfl h
  | cons r rows ih =>
    cases rows with
    | nil => rw [String.intercalate_singleton, List.flatMap_singleton]
    | cons r' rows =>
      rw [String.intercalate_cons_cons, String.toList_append, String.toList_append,
        List.flatMap_cons, ← ih (List.cons_ne_nil _ _), List.append_assoc]
      exact splitAt_append_cons '\n' _ _

/-- Two rows at the top that are lines are the first two lines. -/
theorem getElem?_lines_intercalate {top next : String} (htop : IsLine top) (hnext : IsLine next)
    (rows : List String) :
    (lines ("\n".intercalate (top :: next :: rows)).toList)[1]? = some next.toList := by
  rw [lines_intercalate (List.cons_ne_nil _ _), List.flatMap_cons, List.flatMap_cons,
    lines_of_isLine htop, lines_of_isLine hnext]
  rfl

theorem lines_intercalate_of_isLine (hne : rows ≠ []) (h : ∀ r ∈ rows, IsLine r) :
    lines ("\n".intercalate rows).toList = rows.map String.toList := by
  rw [lines_intercalate hne]
  clear hne
  induction rows with
  | nil => rfl
  | cons r rows ih =>
    obtain ⟨hr, hrows⟩ := List.forall_mem_cons.1 h
    rw [List.flatMap_cons, lines_of_isLine hr, ih hrows]
    rfl

theorem length_le_flatMap_lines (rows : List String) :
    rows.length ≤ (rows.flatMap fun r => lines r.toList).length := by
  induction rows with
  | nil => exact Nat.le_refl 0
  | cons r rows ih =>
    rw [List.flatMap_cons, List.length_append, lines, length_splitAt, List.length_cons]
    omega

/-- There are as many lines as rows exactly if every row is a line. -/
theorem length_lines_eq_iff (h : rows ≠ []) :
    (lines ("\n".intercalate rows).toList).length = rows.length ↔ ∀ r ∈ rows, IsLine r := by
  rw [lines_intercalate h]
  clear h
  induction rows with
  | nil => simp
  | cons r rows ih =>
    have hle := length_le_flatMap_lines rows
    rw [List.flatMap_cons, List.length_append, List.length_cons, List.forall_mem_cons, ← ih,
      lines, length_splitAt, IsLine, ← List.count_eq_zero]
    omega

/-! ## Texts in rows -/

theorem infix_append_left (s t : String) : s.toList <:+: (s ++ t).toList := by
  rw [String.toList_append]
  exact (List.prefix_append _ _).isInfix

theorem infix_append_right (s t : String) : t.toList <:+: (s ++ t).toList := by
  rw [String.toList_append]
  exact (List.suffix_append _ _).isInfix

/-- A row stands as a whole in rows that are put one under the other. -/
theorem infix_intercalate (h : s ∈ rows) :
    s.toList <:+: ("\n".intercalate rows).toList := by
  obtain ⟨front, back, rfl⟩ := List.append_of_mem h
  clear h
  induction front with
  | nil =>
    cases back with
    | nil => simp
    | cons next back =>
      rw [List.nil_append, String.intercalate_cons_cons, String.append_assoc]
      exact infix_append_left _ _
  | cons first front ih =>
    obtain ⟨next, rest, hrest⟩ := List.exists_cons_of_ne_nil (l := front ++ s :: back) (by simp)
    rw [List.cons_append, hrest, String.intercalate_cons_cons, ← hrest]
    exact ih.trans (infix_append_right _ _)

/-! ## What is made of lines -/

section Make

variable {c : Char} {n : Nat} {width : Int}

theorem isLine_ofList {s : List Char} : IsLine (String.ofList s) ↔ '\n' ∉ s := by
  rw [IsLine, String.toList_ofList]

theorem isLine_append_iff : IsLine (s ++ t) ↔ IsLine s ∧ IsLine t := by
  rw [IsLine, String.toList_append, List.mem_append, not_or]
  rfl

theorem IsLine.append (hs : IsLine s) (ht : IsLine t) : IsLine (s ++ t) :=
  isLine_append_iff.2 ⟨hs, ht⟩

/-- Lines put together with a line between them. -/
theorem IsLine.intercalate {sep : String} (hsep : IsLine sep) (h : ∀ row ∈ rows, IsLine row) :
    IsLine (sep.intercalate rows) := by
  induction rows with
  | nil => exact (by decide : IsLine "")
  | cons row rows ih =>
    obtain ⟨hrow, hrows⟩ := List.forall_mem_cons.1 h
    cases rows with
    | nil => simpa using hrow
    | cons next rows =>
      rw [String.intercalate_cons_cons]
      exact (hrow.append hsep).append (ih hrows)

theorem IsLine.fill (h : c ≠ '\n') : IsLine (fill n c) := fun hm => h (mem_fill hm).symm

theorem IsLine.truncate (h : IsLine s) : IsLine (truncate s width) := fun hm =>
  (mem_truncate hm).elim h (by decide)

theorem isLine_pad_iff {align : Align} : IsLine (pad align s width) ↔ IsLine (truncate s width) :=
  not_congr (mem_pad_iff (by decide))

theorem IsLine.pad {align : Align} (h : IsLine s) : IsLine (pad align s width) :=
  isLine_pad_iff.2 h.truncate

theorem isLine_toString_nat (n : Nat) : IsLine (toString n) := by
  have hr : toString n = String.ofList (Nat.toDigits 10 n) := rfl
  rw [IsLine, hr, String.toList_ofList]
  intro h
  exact absurd (isDigit_of_mem_toDigits h) (by decide)

theorem isLine_toString_int (n : Int) : IsLine (toString n) := by
  cases n with
  | ofNat n => exact isLine_toString_nat n
  | negSucc n => exact IsLine.append (s := "-") (by decide) (isLine_toString_nat _)

end Make

/-! ## Upper case -/

private theorem toUpper_ne {c : Char} (h : c ≠ '\n') (hc : c.toNat < 0x80) : c.toUpper ≠ '\n' := by
  have hall : ∀ n < 0x80, (Char.ofNat n).toUpper = '\n' → Char.ofNat n = '\n' := by decide
  have := hall c.toNat hc
  rw [Char.ofNat_toNat] at this
  exact mt this h

private theorem ofNat_ne {n : Nat} (h : n ≠ 10) : Char.ofNat n ≠ '\n' :=
  mt (eq_toNat_of_ofNat (by decide)) h

/-- No letter has a line feed for its upper case: the runs lead to code points past it, and the
table has none. -/
theorem upperChar_ne {c : Char} (h : c ≠ '\n') : '\n' ∉ upperChar c := by
  unfold upperChar
  split
  · next hc => simpa using (toUpper_ne h hc).symm
  · split
    · next codes hl =>
      have hall : ∀ e ∈ upperTexts, 10 ∉ e.2 := by decide +kernel
      intro hm
      obtain ⟨n, hn, hc⟩ := List.mem_map.1 hm
      refine ofNat_ne (fun h10 => ?_) hc
      exact hall _ (mem_of_lookup hl) (h10 ▸ hn)
    · have hall : ∀ r ∈ upperRuns, 10 < r.first + r.offset := by decide +kernel
      rw [List.mem_singleton, mapCase]
      cases ho : upperRuns.findSome? (·.other? c.toNat) with
      | none => exact h.symm
      | some m =>
        obtain ⟨r, hr, hm⟩ := List.exists_of_findSome?_eq_some ho
        have := hall r hr
        unfold CaseRun.other? at hm
        split at hm
        · cases hm
          exact (ofNat_ne (by omega)).symm
        · cases hm

theorem IsLine.upper (h : IsLine s) : IsLine (String.ofList (upper s.toList)) := by
  rw [IsLine, String.toList_ofList]
  intro hm
  obtain ⟨c, hc, hm⟩ := List.mem_flatMap.1 hm
  exact upperChar_ne (fun he => h (he ▸ hc)) hm

end Reflow.Text
