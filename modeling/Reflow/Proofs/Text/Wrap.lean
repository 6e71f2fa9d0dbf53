import Mathlib.Data.List.Flatten
import Reflow.Text.Wrap

/-!
# What wrapped rows are made of

Chunks put together are the paragraph again, and wrapping takes rows off the chunks from the front.
It leaves blanks out, but puts nothing in and moves nothing.

* `flatten_chunks`: no character is lost between the chunks.
* `flatten_wrap_sublist`: the rows one after the other are a part of the paragraph, in its order.
* `eq_or_mem_of_mem_wrap`: rows are made of the characters of the text and spaces.
* `isSpacing_of_mem_wrap`: of the ASCII spacing, rows hold the space alone.
-/

namespace Reflow.Text

variable {width : Nat} {c : Char} {s : List Char}

/-! ## Chunks -/

theorem flatten_chunksAfter (before s : List Char) : (chunksAfter before s).flatten = s := by
  fun_induction chunksAfter before s with
  | case1 before => rfl
  | case2 before c rest n ih =>
    rw [List.flatten_cons, ih, List.cons_append, List.take_append_drop]

theorem flatten_chunks (s : List Char) : (chunks s).flatten = s := flatten_chunksAfter [] s

/-! ## Rows -/

theorem fillRow_append (room : Nat) (pieces : List (List Char)) :
    (fillRow room pieces).1 ++ (fillRow room pieces).2 = pieces := by
  fun_induction fillRow room pieces with
  | case1 room => rfl
  | case2 room chunk rest hfits row left hfill ih =>
    rw [hfill] at ih
    simpa using ih
  | case3 room chunk rest hfits => rfl

theorem dropLastBlank_sublist (row : List (List Char)) : (dropLastBlank row).Sublist row := by
  unfold dropLastBlank
  split
  · split
    · exact List.dropLast_sublist row
    · exact .refl _
  · exact .refl _

/-- A row and what is left over are a part of the chunks. A word that is broken goes into both. -/
theorem nextRow_sublist (width : Nat) (pieces : List (List Char)) :
    ((nextRow width pieces).1.flatten ++ (nextRow width pieces).2.flatten).Sublist
      pieces.flatten := by
  have hfill := fillRow_append width pieces
  have hrow (row left : List (List Char)) :
      ((dropLastBlank row).flatten ++ left.flatten).Sublist (row ++ left).flatten := by
    rw [List.flatten_append]
    exact (dropLastBlank_sublist row).flatten.append (.refl _)
  unfold nextRow
  split
  · next row word left hsplit =>
    rw [hsplit] at hfill
    dsimp only at hfill
    rw [← hfill]
    split
    · generalize longWordCut (width - rowLength row) word = cut
      have hword : (row ++ word :: left).flatten =
          (row ++ [word.take cut] ++ word.drop cut :: left).flatten := by
        conv => lhs; rw [← List.take_append_drop cut word]
        simp only [List.flatten_append, List.flatten_cons, List.flatten_nil, List.append_assoc,
          List.nil_append]
      rw [hword]
      exact hrow (row ++ [word.take cut]) (word.drop cut :: left)
    · exact hrow row (word :: left)
  · next row hsplit =>
    rw [hsplit] at hfill
    rw [← hfill]
    exact hrow row []

theorem flatten_rowsOf_sublist (width : Nat) (first : Bool) (fuel : Nat)
    (pieces : List (List Char)) :
    (rowsOf width first fuel pieces).flatten.Sublist pieces.flatten := by
  have hnext {first : Bool} {chunk : List Char} {rest row left : List (List Char)}
      (h : nextRow width (if isBlankChunk chunk && !first then rest else chunk :: rest) =
        (row, left)) : (row.flatten ++ left.flatten).Sublist (chunk :: rest).flatten := by
    have hrow := nextRow_sublist width
      (if isBlankChunk chunk && !first then rest else chunk :: rest)
    rw [h] at hrow
    refine hrow.trans ?_
    split
    · exact List.sublist_append_right _ _
    · exact .refl _
  fun_induction rowsOf width first fuel pieces with
  | case1 first pieces => exact List.nil_sublist _
  | case2 first fuel => exact .refl _
  | case3 first fuel chunk rest start row left hrow hempty ih =>
    exact (ih.trans (List.sublist_append_right _ _)).trans (hnext hrow)
  | case4 first fuel chunk rest start row left hrow hempty ih =>
    exact ((List.Sublist.refl _).append ih).trans (hnext hrow)

/-- Wrapping leaves out some of the paragraph, puts nothing in and moves nothing. -/
theorem flatten_wrap_sublist (width : Nat) (s : List Char) :
    (wrap width s).flatten.Sublist (paragraph s) := by
  have hrows := flatten_rowsOf_sublist width true
    (rowLength (chunks (paragraph s)) + (chunks (paragraph s)).length) (chunks (paragraph s))
  rwa [flatten_chunks] at hrows

/-! ## Characters of rows -/

theorem isSpacing_of_mem_paragraph (h : c ∈ paragraph s) (hc : isSpacing c) : c = ' ' := by
  obtain ⟨d, -, rfl⟩ := List.mem_map.1 h
  split at hc
  · next hd => exact if_pos hd
  · next hd => exact absurd hc hd

theorem eq_or_mem_of_mem_expandTabs {column : Nat} (h : c ∈ expandTabs column s) :
    c = ' ' ∨ c ∈ s := by
  fun_induction expandTabs column s with
  | case1 column => cases h
  | case2 column s room ih =>
    rcases List.mem_append.1 h with h | h
    · exact .inl (List.eq_of_mem_replicate h)
    · exact (ih h).imp_right (List.mem_cons_of_mem _)
  | case3 column d s hd ih =>
    rcases List.mem_cons.1 h with rfl | h
    · exact .inr List.mem_cons_self
    · exact (ih h).imp_right (List.mem_cons_of_mem _)

/-- Rows are made of the characters of the text and spaces. -/
theorem eq_or_mem_of_mem_wrap {row : List Char} (h : row ∈ wrap width s) (hm : c ∈ row) :
    c = ' ' ∨ c ∈ s := by
  have hparagraph := (flatten_wrap_sublist width s).subset (List.mem_flatten.2 ⟨row, h, hm⟩)
  obtain ⟨d, hd, hc⟩ := List.mem_map.1 hparagraph
  split at hc
  · exact .inl hc.symm
  · exact hc ▸ eq_or_mem_of_mem_expandTabs hd

/-- Of the ASCII spacing, rows hold the space alone. -/
theorem isSpacing_of_mem_wrap {row : List Char} (h : row ∈ wrap width s) (hm : c ∈ row)
    (hc : isSpacing c) : c = ' ' :=
  isSpacing_of_mem_paragraph
    ((flatten_wrap_sublist width s).subset (List.mem_flatten.2 ⟨row, h, hm⟩)) hc

end Reflow.Text
