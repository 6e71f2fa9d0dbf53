import Reflow.Diagram.Border
import Reflow.Proofs.Text.Lines
import Reflow.Proofs.Text.MadeOf

/-!
# Sizes of borders

Every part of a box is two columns wider than what it is around, shows that as a whole if it fits,
and is a line if that is one. Borders are drawn with the palette and spaces.
-/

namespace Reflow.Border

open Palette Text

theorem columns_char (c : Char) : columns (char c) = charColumns c := by
  rw [char, columns_ofList]
  rfl

theorem columns_between (s : String) : columns (between s) = columns s + 2 := by
  have : charColumns vertical = 1 := by decide
  simp only [between, columns_append, columns_char, this]
  omega

theorem columns_row (s : String) (n : Nat) : columns (row s n) = n + 2 := by
  rw [row, columns_between, columns_pad_natCast]

theorem columns_rule (n : Nat) : columns (rule n) = n + 2 := by
  have : charColumns horizontal = 1 := by decide
  rw [rule, columns_between, columns_fill, this, Int.toNat_natCast, Nat.mul_one]

theorem columns_top (n : Nat) : columns (top n) = n + 2 := by
  have h₁ : charColumns topLeft = 1 := by decide
  have h₂ : charColumns horizontal = 1 := by decide
  have h₃ : charColumns topRight = 1 := by decide
  simp only [top, columns_append, columns_char, columns_fill, Int.toNat_natCast, h₁, h₂, h₃]
  omega

theorem columns_bottom (n : Nat) : columns (bottom n) = n + 2 := by
  have h₁ : charColumns bottomLeft = 1 := by decide
  have h₂ : charColumns horizontal = 1 := by decide
  have h₃ : charColumns bottomRight = 1 := by decide
  simp only [bottom, columns_append, columns_char, columns_fill, Int.toNat_natCast, h₁, h₂, h₃]
  omega

/-! ## What rows show -/

theorem infix_between (s : String) : s.toList <:+: (between s).toList :=
  (infix_append_right _ s).trans (infix_append_left _ _)

/-- A text that fits stands as a whole in its row. -/
theorem infix_row {s : String} {n : Nat} (h : columns s ≤ n) : s.toList <:+: (row s n).toList :=
  (infix_pad .left (Int.ofNat_le.2 h)).trans (infix_between _)

/-! ## Lines -/

variable {s : String} {c : Char} {width : Int}

theorem isLine_char (h : c ≠ '\n') : IsLine (char c) := by
  rw [IsLine, char, String.toList_ofList, List.mem_singleton]
  exact h.symm

theorem isLine_between_iff : IsLine (between s) ↔ IsLine s := by
  have : IsLine (char vertical) := isLine_char (by decide)
  simp only [between, isLine_append_iff, this, true_and, and_true]

theorem isLine_row_iff : IsLine (row s width) ↔ IsLine (truncate s width) :=
  isLine_between_iff.trans isLine_pad_iff

theorem isLine_rule : IsLine (rule width) := isLine_between_iff.2 (.fill (by decide))

theorem isLine_top : IsLine (top width) :=
  ((isLine_char (by decide)).append (.fill (by decide))).append (isLine_char (by decide))

theorem isLine_bottom : IsLine (bottom width) :=
  ((isLine_char (by decide)).append (.fill (by decide))).append (isLine_char (by decide))

/-! ## Characters -/

section Characters

variable {p : Char → Bool}

theorem madeOf_char (h : p c) : MadeOf p (char c) :=
  madeOf_ofList.2 (List.forall_mem_singleton.2 h)

variable (hp : (' ' :: all).all p)
include hp

/-- A kind of characters that has the palette has each character of it. -/
theorem of_mem_palette (h : c ∈ ' ' :: all) : p c := List.all_eq_true.1 hp c h

theorem madeOf_between (h : MadeOf p s) : MadeOf p (between s) :=
  have hvertical : MadeOf p (char vertical) := madeOf_char (of_mem_palette hp (by decide))
  (hvertical.append h).append hvertical

theorem madeOf_row (h : MadeOf p s) (width : Int) : MadeOf p (row s width) :=
  madeOf_between hp
    (h.pad (of_mem_palette hp (by decide)) (of_mem_palette hp (by decide)) .left width)

theorem madeOf_line (width : Int) : MadeOf p (fill width.toNat horizontal) :=
  .fill (of_mem_palette hp (by decide)) _

theorem madeOf_rule (width : Int) : MadeOf p (rule width) :=
  madeOf_between hp (madeOf_line hp width)

theorem madeOf_top (width : Int) : MadeOf p (top width) :=
  ((madeOf_char (of_mem_palette hp (by decide))).append (madeOf_line hp width)).append
    (madeOf_char (of_mem_palette hp (by decide)))

theorem madeOf_bottom (width : Int) : MadeOf p (bottom width) :=
  ((madeOf_char (of_mem_palette hp (by decide))).append (madeOf_line hp width)).append
    (madeOf_char (of_mem_palette hp (by decide)))

end Characters

end Reflow.Border
