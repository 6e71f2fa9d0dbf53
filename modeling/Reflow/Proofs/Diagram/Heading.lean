import Reflow.Proofs.Diagram.Frame

/-!
# The second line of a diagram

The heading of a diagram makes room for the line number: the title gives way to it, and then the
severity. So the number stands as a whole in the second line, unless it has more digits than a row
has columns. This line tells a diagram from a notice.

* `line_infix_heading`, `second_line_compose`: the line number in the second line.
* `text_ne_notice`, `text_ne_unavailable`: a diagram is neither a notice nor the line for a subject
  that nobody draws.
-/

namespace Reflow.Diagram

open Text Palette Border

variable {title number : String} {r : Request} {d : Drawing} {n : Nat}

/-! ## Headings -/

/-- The line number as headings show it. -/
def lineText (number : String) : String := "L" ++ number

/-- What stands between the title and the line number. -/
def headingMarks (r : Request) : String :=
  " " ++ char dot ++ " " ++ char r.severity.mark ++ " " ++ char dot ++ " "

/-- The columns that are left for the title. -/
def titleRoom (number : String) (r : Request) : Int :=
  innerWidth - 1 - columns (headingMarks r ++ lineText number)

/-- From here on a line number has more digits than the heading has columns for it. -/
def lineLimit : Nat := Nat.pow 10 56

theorem heading_eq (title number : String) (r : Request) : heading title number r =
    if 2 ≤ titleRoom number r then
      " " ++ truncate (String.ofList (upper title.toList)) (titleRoom number r) ++
        (headingMarks r ++ lineText number)
    else truncate (" " ++ lineText number) innerWidth := rfl

theorem columns_heading_le (title number : String) (r : Request) :
    columns (heading title number r) ≤ innerWidth := by
  rw [heading_eq]
  split
  · have hspace : columns " " = 1 := by decide
    have htitle := columns_truncate_le (String.ofList (upper title.toList)) (titleRoom number r)
    rw [columns_append, columns_append, hspace]
    rw [titleRoom] at *
    omega
  · have := columns_truncate_le (" " ++ lineText number) innerWidth
    omega

theorem columns_lineText (n : Int) :
    columns (lineText (toString n)) = (toString n).length + 1 := by
  have hletter : columns "L" = 1 := by decide
  rw [lineText, columns_append, columns_toString, hletter, Nat.add_comm]

theorem columns_lineText_le (hn : n < lineLimit) :
    columns (lineText (toString (n : Int))) ≤ 57 := by
  have hdigits : toString (n : Int) = String.ofList (Nat.toDigits 10 n) := rfl
  have hlength : (Nat.toDigits 10 n).length ≤ 56 :=
    (Nat.length_toDigits_le_iff (by decide) (by decide)).2 hn
  rw [columns_lineText, hdigits, String.length_ofList]
  omega

/-- A line number that fits in a row by itself stands in the heading. -/
theorem line_infix_heading (title : String) (r : Request) (hfits : columns (lineText number) ≤ 57) :
    (lineText number).toList <:+: (heading title number r).toList := by
  rw [heading_eq]
  split
  · exact (infix_append_right (headingMarks r) (lineText number)).trans (infix_append_right _ _)
  · have hspace : columns " " = 1 := by decide
    have hrow : columns (" " ++ lineText number) ≤ innerWidth := by
      rw [columns_append, hspace, innerWidth]
      omega
    rw [truncate_of_le (Int.ofNat_le.2 hrow)]
    exact infix_append_right _ _

/-- The second line of a diagram. -/
def headingRow (title number : String) (r : Request) : String :=
  Border.row (heading title number r) innerWidth

theorem line_infix_headingRow (title : String) (r : Request)
    (hfits : columns (lineText number) ≤ 57) :
    (lineText number).toList <:+: (headingRow title number r).toList :=
  (line_infix_heading title r hfits).trans (infix_row (columns_heading_le title number r))

theorem allRows_eq (title number : String) (r : Request) (d : Drawing) :
    allRows title number r d = top innerWidth :: headingRow title number r ::
      (rule innerWidth :: comparison d ++ measurements r ++ [bottom innerWidth]) := rfl

theorem second_line_compose (h : IsLine title) (hn : IsLine number) :
    (compose title number r d).lines[1]? = some (headingRow title number r) := by
  have hheading : IsLine (headingRow title number r) :=
    isLine_row_iff.2 (isLine_heading h hn).truncate
  rw [lines, text_compose, allRows_eq, List.getElem?_map,
    getElem?_lines_intercalate isLine_top hheading, Option.map_some, String.ofList_toList]

/-! ## Notices -/

/-- The second line of a notice. -/
def noticeRow : String := Border.row (" " ++ char warning ++ " Visualization Error") innerWidth

theorem isLine_noticeRow : IsLine noticeRow := by decide +kernel

theorem second_line_notice (message : String) : (notice message).lines[1]? = some noticeRow := by
  rw [lines, notice, ofRows, List.cons_append, List.cons_append, List.cons_append,
    List.cons_append, ← noticeRow, List.getElem?_map, getElem?_lines_intercalate isLine_top
    isLine_noticeRow, Option.map_some, String.ofList_toList]

/-- No notice has a line number in its second line. -/
theorem text_ne_notice (h : IsLine title) (hn : IsLine number)
    (hfits : columns (lineText number) ≤ 57) (message : String) :
    (compose title number r d).text ≠ (notice message).text := by
  intro htext
  have hlines : (compose title number r d).lines = (notice message).lines := by
    rw [lines, lines, htext]
  have hrow : headingRow title number r = noticeRow := by
    have hsecond := second_line_compose (r := r) (d := d) h hn
    rw [hlines, second_line_notice] at hsecond
    exact (Option.some.inj hsecond).symm
  have hletter : 'L' ∈ (lineText number).toList := by
    rw [lineText, String.toList_append]
    exact List.mem_append_left _ (by decide)
  have hmem := (line_infix_headingRow title r hfits).subset hletter
  rw [hrow] at hmem
  exact absurd hmem (by decide +kernel)

/-- A diagram starts with a corner, the line for a subject that nobody draws with a bracket. -/
theorem text_ne_unavailable (subject : String) :
    (compose title number r d).text ≠ (unavailable subject).text := by
  intro htext
  have hcorner : (compose title number r d).text.toList.head? = some topLeft := by
    rw [text_compose, allRows_eq, String.intercalate_cons_cons, String.toList_append,
      String.toList_append, top, String.toList_append, String.toList_append]
    rfl
  have hbracket : (unavailable subject).text.toList.head? = some '[' := by
    refine head?_truncate ?_ (by decide)
    rw [String.toList_append, String.toList_append]
    rfl
  rw [htext, hbracket] at hcorner
  exact absurd (Option.some.inj hcorner) (by decide)

end Reflow.Diagram
