import Reflow.Proofs.Diagram.Drawing
import Reflow.Proofs.Diagram.Scale

/-!
# Sizes of drawings

Side by side there is room for 27 columns of the first drawing and for 28 of the second, in 13 rows.
The captions and boxes of every subject stay within that, for the parts that depend on the value
are counted within limits. So the drawings are shown as they are.

* `Drawing.Fits`: rows of at most so many columns, and at most so many rows.
* `Drawing.columns_overflowBar`: the columns of an element in its container.
* `Subject.fits_before`, `Subject.fits_after`: the drawings of a subject.
* `Diagram.comparison_of_fits`: drawings that fit are put side by side as they are.
* `Subject.drawing_shown_whole`: no drawing of a subject is cut.
-/

namespace Reflow

open Palette Text Border Scale

namespace Drawing

variable {caption : String} {rows : List String} {width height n : Nat}

/-! ## Rows -/

@[simp] theorem charColumns_solid : charColumns solid = 1 := by decide

@[simp] theorem charColumns_medium : charColumns medium = 1 := by decide

@[simp] theorem charColumns_light : charColumns light = 1 := by decide

@[simp] theorem columns_spilling (content : String) :
    columns (spilling content) = columns content + 2 := by
  have hvertical : charColumns vertical = 1 := by decide
  have hspill : charColumns spill = 1 := by decide
  simp only [spilling, columns_append, columns_char, hvertical, hspill]
  omega

theorem getLast?_spilling (content : String) :
    (spilling content).toList.getLast? = some spill := by
  have hspill : (char spill).toList = [spill] := String.toList_ofList
  rw [spilling, String.toList_append, hspill]
  exact List.getLast?_concat

@[simp] theorem columns_filled {filling : Char} (h : charColumns filling = 1) (n : Nat) :
    columns (filled n filling) = n + 2 := by
  rw [filled, columns_between, columns_fill, h, Nat.mul_one]

@[simp] theorem columns_itemRow (count : Nat) : columns (itemRow count) = count * 6 := by
  have hitem : columnsOf (List.replicate 5 solid ++ [' ']) = 6 := by decide
  rw [itemRow, columns_ofList]
  induction count with
  | zero => rfl
  | succ count ih =>
    rw [List.replicate_succ, List.flatten_cons, columnsOf_append, ih, hitem]
    omega

theorem columns_padded {padding : Nat} (h : 2 * padding ≤ n) : columns (padded padding n) = n := by
  simp only [padded, columns_append, columns_fill, charColumns_light, charColumns_solid]
  omega

theorem paddingOf_le (pixels : Binary64) : paddingOf pixels ≤ 4 := by
  rw [paddingOf]
  omega

theorem columns_offsetRow_le (offset : Nat) : columns (offsetRow offset) ≤ container + 2 := by
  have hcontent : ∀ c ∈ (fill offset ' ' ++ fill 6 solid).toList, charColumns c = 1 := by
    intro c hc
    rw [String.toList_append, List.mem_append] at hc
    rcases hc with hc | hc
    · rw [mem_fill hc, charColumns_space]
    · rw [mem_fill hc, charColumns_solid]
  rw [offsetRow]
  split
  · rw [columns_spilling, columns_ofList,
      columnsOf_eq_length fun c hc => hcontent c (List.mem_of_mem_take hc)]
    have := List.length_take_le container (fill offset ' ' ++ fill 6 solid).toList
    omega
  · exact Nat.le_of_eq (columns_row _ container)

/-- An element that fits takes its container with the borders. One that does not is drawn one to
three columns past the edge, with a mark at its end. -/
theorem columns_overflowBar (element pixels : Binary64) (n : Nat) :
    if (Proportions.of element pixels n).overflows then
      ∃ k, 1 ≤ k ∧ k ≤ 3 ∧ columns (overflowBar element pixels n) = n + 2 + k ∧
        (overflowBar element pixels n).toList.getLast? = some spill
    else columns (overflowBar element pixels n) = n + 2 := by
  rw [overflowBar_eq]
  simp only [Proportions.overflows_of_iff]
  generalize elementColumns element pixels n = columns
  split
  · next h =>
    refine ⟨min (columns - n) 3, by omega, by omega, ?_, ?_⟩
    · rw [columns_spilling, columns_append, columns_fill, columns_fill, charColumns_solid,
        charColumns_medium]
      omega
    · exact getLast?_spilling _
  · rw [columns_between, columns_append, columns_fill, columns_fill, charColumns_solid,
      charColumns_space]
    omega

theorem columns_overflowBar_le (element pixels : Binary64) (n : Nat) :
    columns (overflowBar element pixels n) ≤ n + 5 := by
  have hbar := columns_overflowBar element pixels n
  split at hbar
  · obtain ⟨k, -, hk, hcolumns, -⟩ := hbar
    omega
  · omega

/-! ## Drawings -/

/-- Rows that a place of so many columns and rows has room for. -/
structure Fits (rows : List String) (width height : Nat) : Prop where
  columns_le : ∀ row ∈ rows, columns row ≤ width
  length_le : rows.length ≤ height

theorem fits_boxed (hcaption : columns caption ≤ width) (hwidth : n + 2 ≤ width)
    (hheight : rows.length + 3 ≤ height) (hrows : ∀ row ∈ rows, columns row ≤ width) :
    Fits (boxed caption n rows) width height := by
  refine ⟨?_, ?_⟩
  · intro row h
    rcases mem_boxed.1 h with rfl | rfl | h | rfl
    · exact hcaption
    · rwa [columns_top]
    · exact hrows row h
    · rwa [columns_bottom]
  · simpa only [boxed, List.length_append, List.length_cons, List.length_nil] using hheight

theorem fits_paddedBox {padding : Nat} (hcaption : columns caption ≤ width)
    (hwidth : container + 2 ≤ width) (hheight : 7 ≤ height) (hpadding : 2 * padding ≤ container) :
    Fits (paddedBox caption padding) width height := by
  have hcontent : columns (between (padded padding container)) ≤ width := by
    rwa [columns_between, columns_padded hpadding]
  exact fits_boxed hcaption hwidth hheight (by simp [hwidth, hcontent])

end Drawing

namespace Subject

open Drawing

theorem trackCount_cases (value : String) :
    trackCount value = 4 ∨ trackCount value = 5 ∨ trackCount value = 6 := by
  rw [trackCount]
  omega

/-- The first drawing of a subject fits, whatever the value. -/
theorem fits_before (s : Subject) (value : String) : Fits (s.before value) 27 13 := by
  have hbar (element pixels : Binary64) {n : Nat} (hn : n ≤ 22) :
      columns (overflowBar element pixels n) ≤ 27 := by
    have := columns_overflowBar_le element pixels n
    omega
  have hoffset (offset : Nat) : columns (offsetRow offset) ≤ 27 :=
    Nat.le_trans (columns_offsetRow_le offset) (by decide)
  cases s with
  | fixedDimensions =>
    refine fits_boxed (by decide) (by decide) (by simp) ?_
    simpa using hbar _ _ (by decide)
  | viewportOverflow =>
    refine fits_boxed (by decide) (by decide) (by simp) ?_
    simpa using hbar _ _ (by decide)
  | flexFragility => exact fits_boxed (by decide) (by decide) (by decide) (by simp [itemsPerRow])
  | gridRigidity =>
    refine fits_boxed ?_ (by decide) (by decide) (by simp [itemsPerRow])
    rcases trackCount_cases value with h | h | h <;> rw [h] <;> decide
  | fixedSpacing =>
    have := paddingOf_le (estimateOr 40 value)
    exact fits_paddedBox (by decide) (by decide) (by decide) (by rw [container]; omega)
  | mediaInstability =>
    have hword : columns " breaks" = 7 := by decide
    exact fits_boxed (by decide) (by decide) (by decide) (by simp [hword])
  | overflowMasking =>
    have hword : columns " hidden" = 7 := by decide
    have hvertical : charColumns vertical = 1 := by decide
    exact fits_boxed (by decide) (by decide) (by decide)
      (by simp [columns_char, charColumns_ellipsis, hvertical, hword])
  | breakpointExceeded =>
    refine fits_boxed (by decide) (by decide) (by simp) ?_
    simpa using hbar _ _ (by decide)
  | absoluteRigidity =>
    exact fits_boxed (by decide) (by decide) (by decide) (by simp [hoffset])
  | boxInconsistency =>
    exact fits_boxed (by decide) (by decide) (by decide) (by simp [columns_padded])
  | overflowHorizontal =>
    refine fits_boxed (by decide) (by decide) (by simp) ?_
    rw [List.forall_mem_cons]
    exact ⟨hbar _ _ (by decide), by simp [columns_between]⟩
  | nowrapFixed => exact fits_boxed (by decide) (by decide) (by decide) (by decide)

theorem fits_itemRows {caption : String} {total : Nat} (hcaption : columns caption ≤ 28)
    (htotal : total ≤ 6) : Fits (boxed caption container (itemRows total)) 28 13 := by
  refine fits_boxed hcaption (by decide) ?_ fun row hrow => ?_
  · rw [itemRows, List.length_map, List.length_range, itemsPerRow]
    omega
  · obtain ⟨i, -, rfl⟩ := List.mem_map.1 hrow
    rw [columns_row]
    decide

/-- The second drawing of a subject fits, whatever the value. -/
theorem fits_after (s : Subject) (value : String) : Fits (s.after value) 28 13 := by
  have hoffset (offset : Nat) : columns (offsetRow offset) ≤ 28 :=
    Nat.le_trans (columns_offsetRow_le offset) (by decide)
  cases s with
  | flexFragility => exact fits_itemRows (by decide) (by decide)
  | gridRigidity =>
    refine fits_itemRows (by decide) ?_
    rcases trackCount_cases value with h | h | h <;> omega
  | fixedSpacing => exact fits_paddedBox (by decide) (by decide) (by decide) (by decide)
  | nowrapFixed => exact fits_boxed (by decide) (by decide) (by decide +kernel) (by decide +kernel)
  | mediaInstability =>
    have hword : columns " stable" = 7 := by decide
    exact fits_boxed (by decide) (by decide) (by decide) (by simp [hword])
  | _ =>
    exact fits_boxed (by decide) (by decide) (by decide)
      (by simp [hoffset, columns_between, columns_padded])

end Subject

namespace Diagram

open Drawing

/-- Two rows side by side as they are, filled up by spaces. -/
def sideBySide (before after : String) : String :=
  between ("  " ++ before ++ fill (27 - columns before) ' ' ++
    (" " ++ after ++ fill (28 - columns after) ' '))

theorem splitRow_of_le {before after : String} (hbefore : columns before ≤ 27)
    (hafter : columns after ≤ 28) : splitRow ("  " ++ before) (" " ++ after) =
      sideBySide before after := by
  have hone : columns " " = 1 := by decide
  have htwo : columns "  " = 2 := by decide
  have hleft : columnWidth - columns ("  " ++ before) = 27 - columns before := by
    rw [columns_append, htwo, columnWidth]
    omega
  have hright : columnWidth - columns (" " ++ after) = 28 - columns after := by
    rw [columns_append, hone, columnWidth]
    omega
  rw [splitRow, pad_left_of_le, pad_left_of_le, hleft, hright, sideBySide]
  · rw [columns_append, hone, columnWidth]
    omega
  · rw [columns_append, htwo, columnWidth]
    omega

/-- Drawings that fit are put side by side as they are, with all their rows. -/
theorem comparison_of_fits {d : Drawing} (hbefore : Fits d.before 27 13)
    (hafter : Fits d.after 28 13) :
    comparison d = labelRow :: (List.range (max d.before.length d.after.length)).map fun i =>
      sideBySide (d.before.getD i "") (d.after.getD i "") := by
  have hcount : min (max d.before.length d.after.length) maxDrawingRows =
      max d.before.length d.after.length :=
    Nat.min_eq_left (Nat.max_le.2 ⟨hbefore.length_le, hafter.length_le⟩)
  rw [comparison, hcount]
  refine congrArg (labelRow :: ·) (List.map_congr_left fun i _ => ?_)
  exact splitRow_of_le (getD_of_forall_mem hbefore.columns_le (Nat.zero_le _) i)
    (getD_of_forall_mem hafter.columns_le (Nat.zero_le _) i)

end Diagram

/-- Whatever the value, no drawing of a subject is cut: both fit in their places and stand there
with all their rows as they are, and so does every element that is drawn in a container. -/
theorem Subject.drawing_shown_whole (s : Subject) (value : String) :
    (∀ row ∈ s.before value, columns row ≤ 27) ∧ (s.before value).length ≤ 13 ∧
      (∀ row ∈ s.after value, columns row ≤ 28) ∧ (s.after value).length ≤ 13 ∧
      Diagram.comparison ⟨s.before value, s.after value⟩ =
        Diagram.labelRow ::
          (List.range (max (s.before value).length (s.after value).length)).map (fun i =>
            Diagram.sideBySide ((s.before value).getD i "") ((s.after value).getD i "")) ∧
      ∀ element container n,
        if (Proportions.of element container (n : Nat)).overflows then
          ∃ k, 1 ≤ k ∧ k ≤ 3 ∧ columns (Drawing.overflowBar element container n) = n + 2 + k ∧
            (Drawing.overflowBar element container n).toList.getLast? = some spill
        else columns (Drawing.overflowBar element container n) = n + 2 := by
  have hbefore := s.fits_before value
  have hafter := s.fits_after value
  exact ⟨hbefore.columns_le, hbefore.length_le, hafter.columns_le, hafter.length_le,
    Diagram.comparison_of_fits hbefore hafter, Drawing.columns_overflowBar⟩

end Reflow
