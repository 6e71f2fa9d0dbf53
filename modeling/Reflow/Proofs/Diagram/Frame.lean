import Reflow.Diagram
import Reflow.Proofs.Diagram.Border

/-!
# The frame of a diagram

A diagram is composed of rows that all take sixty columns, at most twenty of them, whatever the
request and the drawings hold. So clamping changes nothing, and all that can break the frame is a
line feed inside a row.

* `columns_of_mem_allRows`, `length_allRows`, `clamp_allRows`: the rows of a diagram.
* `inFrame_compose_iff`: a diagram keeps its frame exactly if every row is a line.
* `isLine_allRows_iff`: with a title, a line number and drawings of lines, that is a matter of the
  two texts below the drawings, as far as they are shown.
-/

namespace Reflow

open Text Palette Border

/-- Drawings whose rows are lines. -/
def Drawing.IsLines (d : Drawing) : Prop := ∀ row ∈ d.before ++ d.after, IsLine row

instance (d : Drawing) : Decidable d.IsLines :=
  inferInstanceAs (Decidable (∀ row ∈ d.before ++ d.after, IsLine row))

namespace Diagram

variable {title number : String} {r : Request} {d : Drawing} {row : String}

/-- The lines of a diagram's text. -/
def lines (d : Diagram) : List String := (Text.lines d.text.toList).map String.ofList

/-- A diagram that keeps its frame: as many lines as it has rows, not too many of them, and all of
the full width. -/
structure InFrame (d : Diagram) : Prop where
  length_lines : d.lines.length = d.height
  height_le : d.height ≤ maxHeight
  columns_line : ∀ line ∈ d.lines, columns line = maxWidth

/-- The rows that a diagram is composed of. -/
def allRows (title number : String) (r : Request) (d : Drawing) : List String :=
  header title number r ++ comparison d ++ measurements r ++ [bottom innerWidth]

/-- What is wrong, as the measurements say it. -/
def problemText (r : Request) : String := char problem ++ " " ++ r.property ++ ": " ++ r.value

/-- What to do about it, as the measurements say it. -/
def solutionText (r : Request) : String :=
  char solution ++ " " ++ if r.suggestion.isEmpty then standardSuggestion else r.suggestion

/-! ## Sizes -/

theorem columns_splitRow (left right : String) : columns (splitRow left right) = maxWidth := by
  rw [splitRow, columns_between, columns_append, columns_pad_natCast, columns_pad_natCast]
  rfl

theorem columns_labelRow : columns labelRow = maxWidth := by
  have h : columns (pad .left "  BEFORE" (columnWidth - 1)) = columnWidth - 1 := by
    have := columns_pad .left "  BEFORE" (columnWidth - 1)
    simp only [columnWidth] at this ⊢
    omega
  rw [labelRow, columns_between, columns_append, columns_append, h, columns_char,
    columns_pad_natCast]
  rfl

theorem length_header (title number : String) (r : Request) :
    (header title number r).length = 3 := rfl

theorem length_comparison (d : Drawing) :
    (comparison d).length = min (max d.before.length d.after.length) maxDrawingRows + 1 := by
  rw [comparison, List.length_cons, List.length_map, List.length_range]

theorem measurements_eq (r : Request) : measurements r =
    if columns ("  " ++ problemText r) ≤ columnWidth ∧ columns (" " ++ solutionText r) ≤ columnWidth
    then [splitRow ("  " ++ problemText r) (" " ++ solutionText r)]
    else [Border.row (" " ++ problemText r) innerWidth,
      Border.row (" " ++ solutionText r) innerWidth] := rfl

theorem length_measurements (r : Request) :
    (measurements r).length = 1 ∨ (measurements r).length = 2 := by
  rw [measurements_eq]
  split
  · exact .inl rfl
  · exact .inr rfl

theorem length_allRows (title number : String) (r : Request) (d : Drawing) :
    (allRows title number r d).length =
      5 + min (max d.before.length d.after.length) maxDrawingRows + (measurements r).length := by
  simp only [allRows, List.length_append, length_header, length_comparison, List.length_singleton]
  omega

theorem length_allRows_le (title number : String) (r : Request) (d : Drawing) :
    (allRows title number r d).length ≤ maxHeight := by
  have := length_measurements r
  rw [length_allRows]
  simp only [maxHeight, maxDrawingRows]
  omega

theorem allRows_ne_nil (title number : String) (r : Request) (d : Drawing) :
    allRows title number r d ≠ [] :=
  List.append_ne_nil_of_right_ne_nil _ (List.cons_ne_nil _ _)

theorem mem_allRows : row ∈ allRows title number r d ↔
    row ∈ header title number r ∨ row ∈ comparison d ∨ row ∈ measurements r ∨
      row = bottom innerWidth := by
  simp only [allRows, List.mem_append, List.mem_singleton, or_assoc]

theorem columns_of_mem_measurements (h : row ∈ measurements r) : columns row = maxWidth := by
  rw [measurements_eq] at h
  split at h
  · rw [List.mem_singleton.1 h, columns_splitRow]
  · simp only [List.mem_cons, List.not_mem_nil, or_false] at h
    rcases h with rfl | rfl <;> exact columns_row _ innerWidth

/-- Every row takes the full width, whatever is shown in it. -/
theorem columns_of_mem_allRows (h : row ∈ allRows title number r d) : columns row = maxWidth := by
  rcases mem_allRows.1 h with h | h | h | rfl
  · simp only [header, List.mem_cons, List.not_mem_nil, or_false] at h
    rcases h with rfl | rfl | rfl
    · exact columns_top innerWidth
    · exact columns_row _ innerWidth
    · exact columns_rule innerWidth
  · rcases List.mem_cons.1 h with rfl | h
    · exact columns_labelRow
    · obtain ⟨i, -, rfl⟩ := List.mem_map.1 h
      exact columns_splitRow _ _
  · exact columns_of_mem_measurements h
  · exact columns_bottom innerWidth

/-- No row of a diagram is shortened or dropped. -/
theorem clamp_allRows (title number : String) (r : Request) (d : Drawing) :
    clamp (allRows title number r d) = allRows title number r d := by
  have hfit : (allRows title number r d).map (fun line =>
      if maxWidth < columns line then pad .left line maxWidth else line) =
      allRows title number r d := by
    refine (List.map_congr_left fun line hl => if_neg ?_).trans (List.map_id _)
    rw [columns_of_mem_allRows hl]
    exact Nat.lt_irrefl _
  rw [clamp, hfit]
  exact if_neg (Nat.not_lt.2 (length_allRows_le title number r d))

/-! ## Lines -/

theorem compose_eq (title number : String) (r : Request) (d : Drawing) :
    compose title number r d = ofRows (allRows title number r d) :=
  congrArg ofRows (clamp_allRows title number r d)

theorem text_compose (title number : String) (r : Request) (d : Drawing) :
    (compose title number r d).text = "\n".intercalate (allRows title number r d) := by
  rw [compose_eq, ofRows]

theorem height_compose (title number : String) (r : Request) (d : Drawing) :
    (compose title number r d).height = (allRows title number r d).length := by
  rw [compose_eq, ofRows]

theorem foldl_max_of_forall_eq {widths : List Nat} {n : Nat} (h : ∀ w ∈ widths, w = n) :
    widths.foldl max n = n := by
  induction widths with
  | nil => rfl
  | cons w widths ih =>
    obtain ⟨rfl, hw⟩ := List.forall_mem_cons.1 h
    rw [List.foldl_cons, Nat.max_self, ih hw]

theorem width_compose (title number : String) (r : Request) (d : Drawing) :
    (compose title number r d).width = maxWidth := by
  obtain ⟨row, rows, hr⟩ := List.exists_cons_of_ne_nil (allRows_ne_nil title number r d)
  have h : ∀ w ∈ (row :: rows).map columns, w = maxWidth := by
    rw [← hr]
    intro w hw
    obtain ⟨line, hl, rfl⟩ := List.mem_map.1 hw
    exact columns_of_mem_allRows hl
  rw [List.map_cons, List.forall_mem_cons] at h
  rw [compose_eq, ofRows, hr, List.map_cons, List.foldl_cons, h.1, Nat.zero_max]
  exact foldl_max_of_forall_eq h.2

/-- The lines of rows are these rows, if each is a line. -/
theorem lines_ofRows {rows : List String} (hne : rows ≠ []) (h : ∀ row ∈ rows, IsLine row) :
    (ofRows rows).lines = rows := by
  rw [lines, ofRows, lines_intercalate_of_isLine hne h, List.map_map]
  exact (List.map_congr_left fun _ _ => String.ofList_toList).trans (List.map_id _)

/-- The lines of a diagram are its rows, if these are lines. -/
theorem lines_compose (h : ∀ row ∈ allRows title number r d, IsLine row) :
    (compose title number r d).lines = allRows title number r d := by
  rw [compose_eq, lines_ofRows (allRows_ne_nil title number r d) h]

/-- A diagram keeps its frame exactly if every row is a line. -/
theorem inFrame_compose_iff :
    (compose title number r d).InFrame ↔ ∀ row ∈ allRows title number r d, IsLine row := by
  constructor
  · intro h
    have hl := h.length_lines
    rw [lines, List.length_map, height_compose, text_compose] at hl
    exact (length_lines_eq_iff (allRows_ne_nil title number r d)).1 hl
  · intro h
    have hl := lines_compose h
    refine ⟨by rw [hl, height_compose], ?_, fun line hm => ?_⟩
    · rw [height_compose]
      exact length_allRows_le title number r d
    · rw [hl] at hm
      exact columns_of_mem_allRows hm

/-! ## Rows that are lines -/

theorem isLine_splitRow {left right : String} (hl : IsLine left) (hr : IsLine right) :
    IsLine (splitRow left right) :=
  isLine_between_iff.2 (hl.pad.append hr.pad)

theorem isLine_heading (h : IsLine title) (hn : IsLine number) :
    IsLine (heading title number r) := by
  have hline : IsLine ("L" ++ number) := IsLine.append (by decide) hn
  have hmark : IsLine (char r.severity.mark) := by
    cases r.severity <;> exact isLine_char (by decide)
  have hdot : IsLine (char dot) := isLine_char (by decide)
  have hspace : IsLine " " := by decide
  unfold heading
  dsimp only
  split
  · exact (hspace.append h.upper.truncate).append
      (((((hspace.append hdot).append hspace).append hmark).append hspace).append hdot
        |>.append hspace |>.append hline)
  · exact (hspace.append hline).truncate

theorem isLine_of_mem_header (h : IsLine title) (hn : IsLine number)
    (hm : row ∈ header title number r) : IsLine row := by
  simp only [header, List.mem_cons, List.not_mem_nil, or_false] at hm
  rcases hm with rfl | rfl | rfl
  · exact isLine_top
  · exact isLine_row_iff.2 (isLine_heading h hn).truncate
  · exact isLine_rule

theorem isLine_of_mem_comparison (h : d.IsLines) (hm : row ∈ comparison d) : IsLine row := by
  rcases List.mem_cons.1 hm with rfl | hm
  · have harrow : IsLine (char arrow) := isLine_char (by decide)
    exact isLine_between_iff.2
      ((IsLine.pad (s := "  BEFORE") (by decide)).append harrow |>.append
        (IsLine.pad (s := " AFTER") (by decide)))
  · obtain ⟨i, -, rfl⟩ := List.mem_map.1 hm
    have hempty : IsLine "" := by decide
    obtain ⟨hb, ha⟩ := List.forall_mem_append.1 h
    exact isLine_splitRow (IsLine.append (by decide) (getD_of_forall_mem hb hempty i))
      (IsLine.append (by decide) (getD_of_forall_mem ha hempty i))

theorem isLine_problemText (hp : IsLine r.property) (hv : IsLine r.value) :
    IsLine (problemText r) :=
  (((isLine_char (by decide)).append (by decide)).append hp |>.append (by decide)).append hv

theorem isLine_solutionText (hs : IsLine r.suggestion) : IsLine (solutionText r) := by
  refine ((isLine_char (by decide)).append (by decide)).append ?_
  split
  · decide
  · exact hs

/-- The measurements are lines exactly if the two texts are, as far as they are shown. -/
theorem isLine_measurements_iff : (∀ row ∈ measurements r, IsLine row) ↔
    IsLine (truncate (" " ++ problemText r) innerWidth) ∧
      IsLine (truncate (" " ++ solutionText r) innerWidth) := by
  rw [measurements_eq]
  split
  · next h =>
    obtain ⟨hp, hs⟩ := h
    have hone : columns " " = 1 := by decide
    have htwo : columns "  " = 2 := by decide
    rw [columns_append] at hp hs
    simp only [columnWidth] at hp hs
    rw [List.forall_mem_singleton, splitRow, isLine_between_iff, isLine_append_iff, isLine_pad_iff,
      isLine_pad_iff]
    -- Both texts fit their columns, so all of them is shown, here as in rows of their own.
    rw [truncate_of_le, truncate_of_le, truncate_of_le, truncate_of_le, isLine_append_iff,
      isLine_append_iff (s := " ") (t := problemText r)]
    · have h₁ : IsLine " " := by decide
      have h₂ : IsLine "  " := by decide
      simp only [h₁, h₂, true_and]
    all_goals simp only [columns_append, columnWidth, innerWidth]; omega
  · simp only [List.mem_cons, List.not_mem_nil, or_false, forall_eq_or_imp, forall_eq,
      isLine_row_iff]

/-- With a title, a number and drawings of lines, only the measurements can break the frame. -/
theorem isLine_allRows_iff (ht : IsLine title) (hn : IsLine number) (hd : d.IsLines) :
    (∀ row ∈ allRows title number r d, IsLine row) ↔ ∀ row ∈ measurements r, IsLine row := by
  refine ⟨fun h row hm => h row (mem_allRows.2 (.inr (.inr (.inl hm)))), fun h row hm => ?_⟩
  rcases mem_allRows.1 hm with hm | hm | hm | rfl
  · exact isLine_of_mem_header ht hn hm
  · exact isLine_of_mem_comparison hd hm
  · exact h row hm
  · exact isLine_bottom

end Diagram

end Reflow
