import Reflow.Proofs.Diagram.Drawing
import Reflow.Proofs.Diagram.Heading
import Reflow.Proofs.Painter.Drawings

/-!
# Texts that diagrams show

A diagram shows texts that fit as they are: the faulty declaration and the suggested fix below the
drawings, the line number in the heading. That holds whatever the drawings are, so it does not
matter what a painter finds in the cache.

* `Diagram.Shows`: a text stands as a whole in a diagram.
* `Diagram.ShowsTexts`, `Diagram.showsTexts_compose`: the texts of a request.
* `Painter.showsTexts_paint`: the diagrams of the painters of all subjects.
-/

namespace Reflow

open Text Palette Border

namespace Diagram

variable {title number text row : String} {r : Request} {d : Drawing}

/-- The text stands as a whole in the diagram. -/
def Shows (d : Diagram) (text : String) : Prop := text.toList <:+: d.text.toList

/-- What a diagram shows of a request: the declaration and the suggestion if they fit in a
row under their marks, the line number in the second line if it fits there, and always the names of
the two drawings. -/
structure ShowsTexts (d : Diagram) (r : Request) : Prop where
  declaration : columns (r.property ++ ": " ++ r.value) ≤ 54 →
    d.Shows ("✖ " ++ (r.property ++ ": " ++ r.value))
  suggestion : r.suggestion ≠ "" → columns r.suggestion ≤ 54 → d.Shows ("✓ " ++ r.suggestion)
  standard : r.suggestion = "" → d.Shows "✓ Use responsive units"
  line : (toString r.line).length ≤ 56 →
    ∃ row, d.lines[1]? = some row ∧ ("L" ++ toString r.line).toList <:+: row.toList
  before : d.Shows "BEFORE"
  after : d.Shows "AFTER"

/-! ## Rows -/

/-- A diagram shows what stands in one of its rows. -/
theorem shows_of_mem_allRows (hrow : row ∈ allRows title number r d)
    (h : text.toList <:+: row.toList) :
    (compose title number r d).Shows text := by
  rw [Shows, text_compose]
  exact h.trans (infix_intercalate hrow)

theorem infix_splitRow_left {left : String} (h : columns left ≤ columnWidth) (right : String) :
    left.toList <:+: (splitRow left right).toList :=
  ((infix_pad .left (Int.ofNat_le.2 h)).trans (infix_append_left _ _)).trans (infix_between _)

theorem infix_splitRow_right {right : String} (h : columns right ≤ columnWidth) (left : String) :
    right.toList <:+: (splitRow left right).toList :=
  ((infix_pad .left (Int.ofNat_le.2 h)).trans (infix_append_right _ _)).trans (infix_between _)

/-! ## Names of the drawings -/

theorem shows_before (title number : String) (r : Request) (d : Drawing) :
    (compose title number r d).Shows "BEFORE" := by
  have hname : "BEFORE".toList <:+: "  BEFORE".toList := infix_append_right "  " "BEFORE"
  have hpad : "  BEFORE".toList <:+: (pad .left "  BEFORE" (columnWidth - 1)).toList :=
    infix_pad .left (by decide)
  refine shows_of_mem_allRows (mem_allRows.2 (.inr (.inl List.mem_cons_self))) ?_
  exact (((hname.trans hpad).trans (infix_append_left _ _)).trans (infix_append_left _ _)).trans
    (infix_between _)

theorem shows_after (title number : String) (r : Request) (d : Drawing) :
    (compose title number r d).Shows "AFTER" := by
  have hname : "AFTER".toList <:+: " AFTER".toList := infix_append_right " " "AFTER"
  have hpad : " AFTER".toList <:+: (pad .left " AFTER" columnWidth).toList :=
    infix_pad .left (by decide)
  refine shows_of_mem_allRows (mem_allRows.2 (.inr (.inl List.mem_cons_self))) ?_
  exact ((hname.trans hpad).trans (infix_append_right _ _)).trans (infix_between _)

/-! ## Measurements -/

/-- Either text stands in the rows below the drawings, in its column or in a row of its own, if
such a row has the columns for it. -/
theorem exists_row_of_measurement (htext : text = problemText r ∨ text = solutionText r)
    (h : columns text ≤ 57) : ∃ row ∈ measurements r, text.toList <:+: row.toList := by
  rw [measurements_eq]
  split
  · next hboth =>
    refine ⟨_, List.mem_singleton_self _, ?_⟩
    rcases htext with rfl | rfl
    · exact (infix_append_right _ _).trans (infix_splitRow_left hboth.1 _)
    · exact (infix_append_right _ _).trans (infix_splitRow_right hboth.2 _)
  · have hspace : columns " " = 1 := by decide
    have hfits : columns (" " ++ text) ≤ innerWidth := by
      simp only [columns_append, hspace, innerWidth]
      omega
    refine ⟨Border.row (" " ++ text) innerWidth, ?_,
      (infix_append_right _ _).trans (infix_row hfits)⟩
    rcases htext with rfl | rfl <;> simp

/-- A mark takes two columns and a space follows it, so 54 columns of a row are left. -/
theorem shows_of_measurement {mark : String} (hmark : columns mark = 3)
    (htext : mark ++ text = problemText r ∨ mark ++ text = solutionText r)
    (h : columns text ≤ 54) : (compose title number r d).Shows (mark ++ text) := by
  have hfits : columns (mark ++ text) ≤ 57 := by
    rw [columns_append, hmark]
    omega
  obtain ⟨row, hrow, hinfix⟩ := exists_row_of_measurement htext hfits
  exact shows_of_mem_allRows (mem_allRows.2 (.inr (.inr (.inl hrow)))) hinfix

theorem problemText_eq (r : Request) :
    problemText r = "✖ " ++ (r.property ++ ": " ++ r.value) := by
  have hmark : char problem ++ " " = "✖ " := by decide
  simp only [problemText, hmark, String.append_assoc]

theorem solutionText_eq (r : Request) :
    solutionText r = "✓ " ++ if r.suggestion = "" then standardSuggestion else r.suggestion := by
  have hmark : char solution ++ " " = "✓ " := by decide
  simp only [solutionText, hmark, String.isEmpty_iff]

/-! ## Diagrams -/

theorem showsTexts_compose (r : Request) (d : Drawing) (htitle : IsLine title) :
    (compose title (toString r.line) r d).ShowsTexts r := by
  have hproblem : columns "✖ " = 3 := by decide
  have hsolution : columns "✓ " = 3 := by decide
  refine ⟨fun hfits => ?_, fun hne hfits => ?_, fun hempty => ?_, fun hdigits => ?_,
    shows_before title _ r d, shows_after title _ r d⟩
  · exact shows_of_measurement hproblem (.inl (problemText_eq r).symm) hfits
  · refine shows_of_measurement hsolution (.inr ?_) hfits
    rw [solutionText_eq, if_neg hne]
  · have htext : "✓ Use responsive units" = "✓ " ++ standardSuggestion := by decide
    rw [htext]
    refine shows_of_measurement hsolution (.inr ?_) (by decide)
    rw [solutionText_eq, if_pos hempty]
  · have hfits : columns (lineText (toString r.line)) ≤ 57 := by
      rw [columns_lineText]
      omega
    exact ⟨headingRow title _ r, second_line_compose htitle (isLine_toString_int r.line),
      line_infix_headingRow title r hfits⟩

end Diagram

namespace Painter

open Diagram

variable {p : Painter} {r : Request}

/-- A painter that makes drawings presents them, or those in the cache. -/
theorem exists_paint_eq (cache : Cache Drawing) {drawing : Drawing} (h : p.draw r = .ok drawing) :
    ∃ d, (p.paint cache r).1 = p.present r d := by
  rcases drawingFor_cases p cache r with ⟨held, -, -, hheld⟩ | hmade
  · exact ⟨held, paint_of_drawing hheld⟩
  · exact ⟨drawing, paint_of_drawing (by rw [hmade, h]; rfl)⟩

end Painter

end Reflow
