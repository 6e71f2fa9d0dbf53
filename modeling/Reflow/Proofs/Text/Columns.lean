import Reflow.Proofs.Text.Characters
import Reflow.Text.Columns

/-!
# Laws of display columns

* `columns_truncate_le`: a shortened text fits in its limit; `truncate_of_le`: a text that fits
  is not shortened.
* `columns_pad`: a padded text takes exactly the columns it is padded to.
* `columns_toString`: a number takes a column for each of its characters.
* `mem_truncate`, `mem_pad_iff`: neither puts in characters but the ellipsis and the space.
-/

namespace Reflow.Text

variable {s t : String} {c d : Char} {n : Nat} {limit width : Int}

/-! ## Sums of columns -/

theorem columnsOf_append (a b : List Char) : columnsOf (a ++ b) = columnsOf a + columnsOf b := by
  induction a with
  | nil => simp [columnsOf]
  | cons c a ih => simp only [List.cons_append, columnsOf, ih]; omega

theorem columnsOf_replicate (n : Nat) (c : Char) :
    columnsOf (List.replicate n c) = n * charColumns c := by
  induction n with
  | zero => simp [columnsOf]
  | succ n ih => rw [List.replicate_succ, columnsOf, ih, Nat.succ_mul]; omega

theorem columnsOf_eq_length {a : List Char} (h : ∀ c ∈ a, charColumns c = 1) :
    columnsOf a = a.length := by
  induction a with
  | nil => rfl
  | cons c a ih =>
    obtain ⟨hc, ha⟩ := List.forall_mem_cons.1 h
    rw [columnsOf, hc, ih ha, List.length_cons, Nat.add_comm]

/-- Only the variation selector takes no column. -/
theorem charColumns_pos (h : c ≠ '\uFE0F') : 0 < charColumns c := by
  rw [charColumns, if_neg h]
  split <;> decide

/-- Where every character takes a column, the columns of its front tell where a text is parted. -/
theorem append_inj_of_columns {a b a' b' : List Char} (h : a ++ a' = b ++ b')
    (hcolumns : columnsOf a = columnsOf b) (ha : ∀ c ∈ a, 0 < charColumns c)
    (hb : ∀ c ∈ b, 0 < charColumns c) : a = b ∧ a' = b' := by
  induction a generalizing b with
  | nil =>
    cases b with
    | nil => exact ⟨rfl, h⟩
    | cons c b =>
      have := hb c List.mem_cons_self
      simp only [columnsOf] at hcolumns
      omega
  | cons c a ih =>
    cases b with
    | nil =>
      have := ha c List.mem_cons_self
      simp only [columnsOf] at hcolumns
      omega
    | cons d b =>
      obtain ⟨rfl, hrest⟩ := List.cons.inj h
      rw [columnsOf, columnsOf, Nat.add_right_inj] at hcolumns
      obtain ⟨rfl, hback⟩ := ih hrest hcolumns (fun d hd => ha d (List.mem_cons_of_mem _ hd))
        fun d hd => hb d (List.mem_cons_of_mem _ hd)
      exact ⟨rfl, hback⟩

@[simp] theorem columns_ofList (a : List Char) : columns (String.ofList a) = columnsOf a := by
  rw [columns, String.toList_ofList]

@[simp] theorem columns_append (s t : String) : columns (s ++ t) = columns s + columns t := by
  rw [columns, String.toList_append, columnsOf_append, columns, columns]

@[simp] theorem columns_fill (n : Nat) (c : Char) : columns (fill n c) = n * charColumns c := by
  rw [fill, columns_ofList, columnsOf_replicate]

theorem fill_zero (c : Char) : fill 0 c = "" := rfl

theorem mem_fill (h : c ∈ (fill n d).toList) : c = d := by
  rw [fill, String.toList_ofList] at h
  exact List.eq_of_mem_replicate h

theorem charColumns_of_isDigit (h : c.isDigit) : charColumns c = 1 := by
  have hdigits : ∀ n < 58, 48 ≤ n → charColumns (Char.ofNat n) = 1 := by decide
  obtain ⟨hlow, hhigh⟩ := toNat_of_isDigit h
  have hc := hdigits c.toNat hhigh hlow
  rwa [Char.ofNat_toNat] at hc

theorem columns_toString_nat (n : Nat) : columns (toString n) = (toString n).length := by
  have hdigits : toString n = String.ofList (Nat.toDigits 10 n) := rfl
  rw [hdigits, columns_ofList, String.length_ofList]
  exact columnsOf_eq_length fun c hc => charColumns_of_isDigit (isDigit_of_mem_toDigits hc)

/-- A number takes as many columns as it has digits, and one more for its sign. -/
theorem columns_toString (n : Int) : columns (toString n) = (toString n).length := by
  cases n with
  | ofNat n => exact columns_toString_nat n
  | negSucc n =>
    have hsign : toString (Int.negSucc n) = "-" ++ toString (n + 1) := rfl
    have hcolumns : columns "-" = 1 := by decide
    rw [hsign, columns_append, columns_toString_nat, String.length_append, hcolumns]
    rfl

theorem charColumns_space : charColumns ' ' = 1 := by decide

theorem charColumns_ellipsis : charColumns ellipsis = 1 := by decide

/-! ## Shortened texts -/

theorem columnsOf_fitting_le (budget : Nat) (a : List Char) :
    columnsOf (fitting budget a) ≤ budget := by
  induction a generalizing budget with
  | nil => exact Nat.zero_le _
  | cons c a ih =>
    rw [fitting]
    split
    · have := ih (budget - charColumns c)
      rw [columnsOf]
      omega
    · exact Nat.zero_le _

theorem prefix_fitting (budget : Nat) (a : List Char) : fitting budget a <+: a := by
  induction a generalizing budget with
  | nil => exact List.nil_prefix
  | cons c a ih =>
    rw [fitting]
    split
    · exact List.cons_prefix_cons.2 ⟨rfl, ih _⟩
    · exact List.nil_prefix

theorem truncate_of_le (h : (columns s : Int) ≤ limit) : truncate s limit = s := if_pos h

/-- A shortened text fits in its limit. -/
theorem columns_truncate_le (s : String) (limit : Int) :
    (columns (truncate s limit) : Int) ≤ max limit 0 := by
  unfold truncate
  split
  · omega
  · split
    · simp only [columns, String.toList_empty, columnsOf]
      omega
    · have := columnsOf_fitting_le (limit - 1).toNat s.toList
      rw [columns_ofList, columnsOf_append, columnsOf, charColumns_ellipsis, columnsOf]
      omega

theorem mem_truncate (h : c ∈ (truncate s limit).toList) : c ∈ s.toList ∨ c = ellipsis := by
  unfold truncate at h
  split at h
  · exact .inl h
  · split at h
    · simp at h
    · rw [String.toList_ofList, List.mem_append, List.mem_singleton] at h
      exact h.imp_left fun h => (prefix_fitting _ _).subset h

/-- A shortened text keeps its first character, if that fits in front of the mark. -/
theorem head?_truncate (hs : s.toList.head? = some c) (hc : charColumns c < limit) :
    (truncate s limit).toList.head? = some c := by
  unfold truncate
  split
  · exact hs
  · obtain ⟨t, ht⟩ := List.head?_eq_some_iff.1 hs
    rw [if_neg (by omega), String.toList_ofList, ht, fitting, if_pos (by omega)]
    rfl

/-! ## Padded texts -/

/-- A padded text is the text, shortened if need be, between spaces that fill it up. -/
theorem pad_eq (align : Align) (s : String) (width : Int) :
    ∃ m n : Nat, m + n = (width - columns (truncate s width)).toNat ∧
      pad align s width = fill m ' ' ++ truncate s width ++ fill n ' ' := by
  have hk : (if width ≤ columns s then truncate s width else s) = truncate s width := by
    split
    · rfl
    · exact (truncate_of_le (by omega)).symm
  unfold pad
  rw [hk]
  cases align with
  | left => exact ⟨0, _, Nat.zero_add _, by rw [fill_zero, String.empty_append]⟩
  | center => exact ⟨_, _, Nat.add_sub_of_le (Nat.div_le_self _ 2), rfl⟩
  | right => exact ⟨_, 0, Nat.add_zero _, by rw [fill_zero, String.append_empty]⟩

/-- A padded text takes exactly the columns it is padded to. -/
theorem columns_pad (align : Align) (s : String) (width : Int) :
    (columns (pad align s width) : Int) = max width 0 := by
  have hk := columns_truncate_le s width
  obtain ⟨m, n, hmn, h⟩ := pad_eq align s width
  rw [h, columns_append, columns_append, columns_fill, columns_fill, charColumns_space]
  omega

/-- A text that fits is filled up by spaces behind it. -/
theorem pad_left_of_le (h : columns s ≤ n) : pad .left s n = s ++ fill (n - columns s) ' ' := by
  have htruncate : truncate s n = s := truncate_of_le (Int.ofNat_le.2 h)
  have hroom : ((n : Int) - columns s).toNat = n - columns s := by omega
  rw [pad, htruncate, ite_self, hroom]

theorem columns_pad_natCast (align : Align) (s : String) (n : Nat) :
    columns (pad align s n) = n := by
  have := columns_pad align s n
  omega

/-- A text that fits stands as a whole in the padded text. -/
theorem infix_pad (align : Align) (h : (columns s : Int) ≤ width) :
    s.toList <:+: (pad align s width).toList := by
  obtain ⟨m, n, -, hp⟩ := pad_eq align s width
  rw [hp, truncate_of_le h, String.toList_append, String.toList_append]
  exact List.infix_append _ _ _

theorem mem_pad_iff {align : Align} (hc : c ≠ ' ') :
    c ∈ (pad align s width).toList ↔ c ∈ (truncate s width).toList := by
  obtain ⟨m, n, -, hp⟩ := pad_eq align s width
  have hfill {k} : c ∉ (fill k ' ').toList := mt mem_fill hc
  simp only [hp, String.toList_append, List.mem_append, hfill, false_or, or_false]

end Reflow.Text
