import Reflow.Proofs.Text.Columns

/-!
# What a shortened text keeps

Characters take no column, one or two, so that what is kept may fall short of the limit. It is the
longest front that leaves a column for the mark. A text that is shortened again is cut at the same
place as if it had been shortened once, to the smaller limit.

* `IsLongestFit`: the longest front of a text that fits in so many columns, as `fitting` gives it
  (`isLongestFit_fitting`).
* `fitting_append_of_le`, `fitting_append_of_lt`, `fitting_fitting`: the cut of a longer text, and
  the cut of what was cut already.
* `truncate_truncate`: a text shortened twice.
* `truncate_pad_exact`: all of it for every text and all limits.
-/

namespace Reflow.Text

variable {s : String} {a b : List Char} {m n : Nat} {limit : Int}

/-! ## Fronts that fit -/

/-- A front of the text that fits in the columns, and that every front that fits is a front of. -/
structure IsLongestFit (budget : Int) (text front : List Char) : Prop where
  isFront : front <+: text
  fits : (columnsOf front : Int) ≤ budget
  longest : ∀ other, other <+: text → (columnsOf other : Int) ≤ budget → other <+: front

/-- What fits is kept, and the rest of the text is cut to the columns that are left. -/
theorem fitting_append_of_le (h : columnsOf a ≤ n) (b : List Char) :
    fitting n (a ++ b) = a ++ fitting (n - columnsOf a) b := by
  induction a generalizing n with
  | nil => simp [columnsOf]
  | cons c a ih =>
    simp only [columnsOf] at h
    have hrest : columnsOf a ≤ n - charColumns c := by omega
    have hleft : n - charColumns c - columnsOf a = n - (charColumns c + columnsOf a) := by omega
    rw [List.cons_append, fitting, if_pos (by omega), ih hrest, hleft, columnsOf, List.cons_append]

theorem fitting_of_le (h : columnsOf a ≤ n) : fitting n a = a := by
  have hkept := fitting_append_of_le h []
  simpa [fitting] using hkept

/-- What stands behind a text that does not fit has no part in what is kept. -/
theorem fitting_append_of_lt (h : n < columnsOf a) (b : List Char) :
    fitting n (a ++ b) = fitting n a := by
  induction a generalizing n with
  | nil => simp [columnsOf] at h
  | cons c a ih =>
    simp only [columnsOf] at h
    rw [List.cons_append, fitting, fitting]
    by_cases hc : charColumns c ≤ n
    · rw [if_pos hc, if_pos hc, ih (by omega)]
    · rw [if_neg hc, if_neg hc]

/-- What was cut already is cut again as the whole text is. -/
theorem fitting_fitting (h : m ≤ n) (a : List Char) : fitting m (fitting n a) = fitting m a := by
  induction a generalizing m n with
  | nil => rfl
  | cons c a ih =>
    by_cases hn : charColumns c ≤ n
    · rw [fitting, if_pos hn, fitting, fitting]
      by_cases hm : charColumns c ≤ m
      · rw [if_pos hm, if_pos hm, ih (by omega)]
      · rw [if_neg hm, if_neg hm]
    · have hm : ¬ charColumns c ≤ m := by omega
      rw [fitting, if_neg hn, fitting, fitting, if_neg hm]

theorem isLongestFit_fitting (n : Nat) (a : List Char) : IsLongestFit n a (fitting n a) where
  isFront := prefix_fitting n a
  fits := Int.ofNat_le.2 (columnsOf_fitting_le n a)
  longest := by
    rintro other ⟨rest, rfl⟩ hfits
    rw [fitting_append_of_le (Int.ofNat_le.1 hfits)]
    exact List.prefix_append _ _

/-! ## Shortened texts -/

theorem truncate_of_nonpos (hlong : limit < columns s) (h : limit ≤ 0) : truncate s limit = "" := by
  rw [truncate, if_neg (by omega), if_pos h]

theorem truncate_empty (limit : Int) : truncate "" limit = "" := by
  have hempty : columns "" = 0 := rfl
  by_cases h : 0 ≤ limit
  · exact truncate_of_le (by omega)
  · exact truncate_of_nonpos (by omega) (by omega)

/-- A text that is too long for a positive limit is cut where its mark leaves off. -/
theorem truncate_of_lt (hlong : (n : Int) + 1 < columns s) :
    truncate s (n + 1) = String.ofList (fitting n s.toList ++ [ellipsis]) := by
  have hbudget : ((n : Int) + 1 - 1).toNat = n := by omega
  rw [truncate, if_neg (by omega), if_neg (by omega), hbudget]

/-- Where the mark still fits, the cut text stays as it is. Where it does not, it goes with the
characters in front of it that do not fit either. -/
theorem truncate_cut (h : m ≤ n) (s : String) :
    truncate (String.ofList (fitting n s.toList ++ [ellipsis])) (m + 1) =
      String.ofList (fitting m s.toList ++ [ellipsis]) := by
  have hcolumns : columns (String.ofList (fitting n s.toList ++ [ellipsis])) =
      columnsOf (fitting n s.toList) + 1 := by
    rw [columns_ofList, columnsOf_append, columnsOf, charColumns_ellipsis, columnsOf]
  by_cases hfits : columnsOf (fitting n s.toList) ≤ m
  · have hsame : fitting n s.toList = fitting m s.toList := by
      rw [← fitting_fitting h, fitting_of_le hfits]
    rw [truncate_of_le (by omega), hsame]
  · rw [truncate_of_lt (by omega), String.toList_ofList, fitting_append_of_lt (by omega),
      fitting_fitting h]

/-- A text shortened twice is shortened to the smaller limit. -/
theorem truncate_truncate (s : String) (limit limit' : Int) :
    truncate (truncate s limit) limit' = truncate s (min limit limit') := by
  by_cases hfits : columns s ≤ limit
  · rw [truncate_of_le hfits]
    by_cases hle : limit ≤ limit'
    · rw [Int.min_eq_left hle, truncate_of_le hfits, truncate_of_le (by omega)]
    · rw [Int.min_eq_right (by omega)]
  by_cases hempty : limit ≤ 0
  · rw [truncate_of_nonpos (by omega) hempty, truncate_empty,
      truncate_of_nonpos (by omega) (by omega)]
  obtain ⟨n, rfl⟩ : ∃ n : Nat, limit = n + 1 := ⟨(limit - 1).toNat, by omega⟩
  by_cases hle : (n : Int) + 1 ≤ limit'
  · have hshort := columns_truncate_le s (n + 1)
    rw [Int.min_eq_left hle, truncate_of_le (by omega)]
  rw [Int.min_eq_right (by omega)]
  by_cases hempty' : limit' ≤ 0
  · rw [truncate_of_nonpos (s := s) (by omega) hempty', truncate_of_lt (by omega)]
    refine truncate_of_nonpos ?_ hempty'
    simp only [columns_ofList, columnsOf_append, columnsOf, charColumns_ellipsis]
    omega
  · obtain ⟨m, rfl⟩ : ∃ m : Nat, limit' = m + 1 := ⟨(limit' - 1).toNat, by omega⟩
    rw [truncate_of_lt (s := s) (n := n) (by omega), truncate_of_lt (s := s) (n := m) (by omega)]
    exact truncate_cut (by omega) s

/-- A text that fits is kept, and of one that does not the longest front that leaves a column for
the mark. It never takes more columns than the limit, and is the same after a second limit as after
the smaller of both. A padded text takes exactly its columns and has the text in it if that fits. -/
theorem truncate_pad_exact (s : String) (limit limit' : Int) :
    (columns (truncate s limit) : Int) ≤ max limit 0 ∧
      (columns s ≤ limit → truncate s limit = s) ∧
      (limit < columns s → 1 ≤ limit → ∃ kept, IsLongestFit (limit - 1) s.toList kept ∧
        truncate s limit = String.ofList (kept ++ [ellipsis])) ∧
      truncate (truncate s limit) limit' = truncate s (min limit limit') ∧
      ∀ align, (columns (pad align s limit) : Int) = max limit 0 ∧
        (columns s ≤ limit → s.toList <:+: (pad align s limit).toList) := by
  refine ⟨columns_truncate_le s limit, truncate_of_le, fun hlong hpos => ?_,
    truncate_truncate s limit limit', fun align => ⟨columns_pad align s limit, infix_pad align⟩⟩
  obtain ⟨n, rfl⟩ : ∃ n : Nat, limit = n + 1 := ⟨(limit - 1).toNat, by omega⟩
  refine ⟨fitting n s.toList, ?_, truncate_of_lt hlong⟩
  rw [Int.add_sub_cancel]
  exact isLongestFit_fitting n s.toList

/-- Two columns of a mark, none of its selector, and three more marks: in four columns the second
mark has no room beside the ellipsis, and one column is left over. -/
theorem truncate_pad_exact_wide :
    let text := "✖\uFE0F✖✖✖"
    ((4 : Int) < columns text ∧ (1 : Int) ≤ 4 ∧
        ∃ kept, IsLongestFit (4 - 1) text.toList kept ∧
          truncate text 4 = String.ofList (kept ++ [ellipsis])) ∧
      truncate (truncate text 4) 3 = truncate text (min 4 3) ∧
      (columns (pad .center text 4) : Int) = max 4 0 ∧
      truncate text 4 = "✖\uFE0F…" ∧ columns (truncate text 4) = 3 ∧
      pad .center text 4 = "✖\uFE0F… " ∧
      ((columns text : Int) ≤ 8 ∧ truncate text 8 = text ∧
        text.toList <:+: (pad .center text 8).toList) := by
  intro text
  have hlong : (4 : Int) < columns text := by decide
  have hfits : (columns text : Int) ≤ 8 := by decide
  obtain ⟨-, -, hcut, htwice, hpad⟩ := truncate_pad_exact text 4 3
  obtain ⟨-, hwhole, -, -, hin⟩ := truncate_pad_exact text 8 3
  exact ⟨⟨hlong, by decide, hcut hlong (by decide)⟩, htwice, (hpad .center).1, by decide, by decide,
    by decide, hfits, hwhole hfits, (hin .center).2 hfits⟩

end Reflow.Text
