import Reflow.Proofs.Diagram.Heading
import Reflow.Proofs.Text.Wrap

/-!
# The frame of a notice

A message is wrapped by characters and framed by columns, so a row of wide characters may be too
long for the frame. It is shortened there. Of more than four rows, those from the fourth on are put
into one, which is shortened too. So a notice has sixty columns and five to eight rows, whatever the
message.

* `length_messageRows_pos`, `length_messageRows_le`, `isLine_of_mem_messageRows`: the rows of a
  message are one to four lines.
* `columns_of_mem_noticeRows`, `lines_notice`: the rows of a notice take the full width and are its
  lines.
* `notice_inFrame`: the frame of a notice.
-/

namespace Reflow

open Text Palette Border

namespace Diagram

variable {message row : String}

/-! ## Rows of a message -/

/-- The message in rows, before they are too many. -/
def wrappedRows (message : String) : List String :=
  (wrap (innerWidth - 2) message.toList).map String.ofList

theorem messageRows_eq (message : String) : messageRows message =
    if wrappedRows message = [] then [""]
    else if maxMessageRows < (wrappedRows message).length then
      (wrappedRows message).take (maxMessageRows - 1) ++ [truncate
        (" ".intercalate ((wrappedRows message).drop (maxMessageRows - 1))) (innerWidth - 2)]
    else wrappedRows message := by
  unfold messageRows wrappedRows
  simp only [List.isEmpty_iff]
  rfl

theorem length_messageRows_pos (message : String) : 0 < (messageRows message).length := by
  rw [messageRows_eq]
  split
  · exact Nat.one_pos
  split
  · simp
  · next h _ => exact List.length_pos_iff.2 h

theorem length_messageRows_le (message : String) : (messageRows message).length ≤ 4 := by
  rw [messageRows_eq]
  split
  · decide
  split
  · simp only [maxMessageRows, List.length_append, List.length_take, List.length_singleton]
    omega
  · next h =>
    rw [maxMessageRows] at h
    omega

theorem isLine_of_mem_wrappedRows (h : row ∈ wrappedRows message) : IsLine row := by
  obtain ⟨wrapped, hwrapped, rfl⟩ := List.mem_map.1 h
  intro hm
  rw [String.toList_ofList] at hm
  exact absurd (isSpacing_of_mem_wrap hwrapped hm (by decide)) (by decide)

/-- No row of a message breaks, however many line feeds the message has. -/
theorem isLine_of_mem_messageRows (h : row ∈ messageRows message) : IsLine row := by
  rw [messageRows_eq] at h
  split at h
  · rw [List.mem_singleton.1 h]
    decide
  split at h
  · rcases List.mem_append.1 h with h | h
    · exact isLine_of_mem_wrappedRows (List.mem_of_mem_take h)
    · rw [List.mem_singleton.1 h]
      refine IsLine.truncate (IsLine.intercalate (by decide) fun next hnext => ?_)
      exact isLine_of_mem_wrappedRows (List.mem_of_mem_drop hnext)
  · exact isLine_of_mem_wrappedRows h

/-! ## Rows of a notice -/

/-- The rows that a notice is put together from. -/
def noticeRows (message : String) : List String :=
  [top innerWidth, noticeRow, rule innerWidth]
    ++ (messageRows message).map (fun line => Border.row (" " ++ line) innerWidth)
    ++ [bottom innerWidth]

theorem notice_eq (message : String) :
    notice message = { ofRows (noticeRows message) with width := maxWidth } := rfl

theorem mem_noticeRows : row ∈ noticeRows message ↔
    row = top innerWidth ∨ row = noticeRow ∨ row = rule innerWidth ∨
      (∃ line ∈ messageRows message, Border.row (" " ++ line) innerWidth = row) ∨
      row = bottom innerWidth := by
  simp only [noticeRows, List.mem_append, List.mem_cons, List.not_mem_nil, or_false, List.mem_map,
    or_assoc]

theorem length_noticeRows (message : String) :
    (noticeRows message).length = (messageRows message).length + 4 := by
  simp [noticeRows]

/-- Every row takes the full width, wide characters or not. -/
theorem columns_of_mem_noticeRows (h : row ∈ noticeRows message) : columns row = maxWidth := by
  rcases mem_noticeRows.1 h with rfl | rfl | rfl | ⟨line, -, rfl⟩ | rfl
  · exact columns_top innerWidth
  · exact columns_row _ innerWidth
  · exact columns_rule innerWidth
  · exact columns_row _ innerWidth
  · exact columns_bottom innerWidth

theorem isLine_of_mem_noticeRows (h : row ∈ noticeRows message) : IsLine row := by
  rcases mem_noticeRows.1 h with rfl | rfl | rfl | ⟨line, hline, rfl⟩ | rfl
  · exact isLine_top
  · exact isLine_noticeRow
  · exact isLine_rule
  · exact isLine_row_iff.2 (IsLine.append (by decide) (isLine_of_mem_messageRows hline)).truncate
  · exact isLine_bottom

/-- The lines of a notice are its rows. -/
theorem lines_notice (message : String) : (notice message).lines = noticeRows message := by
  have hne : noticeRows message ≠ [] := List.append_ne_nil_of_right_ne_nil _ (List.cons_ne_nil _ _)
  have htext : (notice message).text = (ofRows (noticeRows message)).text := by rw [notice_eq]
  rw [lines, htext, ← lines]
  exact lines_ofRows hne fun row hrow => isLine_of_mem_noticeRows hrow

theorem height_notice (message : String) :
    (notice message).height = (messageRows message).length + 4 := by
  rw [notice_eq, ← length_noticeRows]
  rfl

/-- Whatever the message, a notice is a box of sixty columns and five to eight rows: as many lines
as rows, each of the full width, the first one the top border and the last one the bottom border. -/
theorem notice_inFrame (message : String) :
    (notice message).lines.length = (notice message).height ∧
      5 ≤ (notice message).height ∧ (notice message).height ≤ 8 ∧
      (∀ line ∈ (notice message).lines, columns line = 60) ∧
      (notice message).width = 60 ∧
      (notice message).lines.head? = some (top innerWidth) ∧
      (notice message).lines.getLast? = some (bottom innerWidth) := by
  have hpos := length_messageRows_pos message
  have hle := length_messageRows_le message
  rw [lines_notice, height_notice]
  refine ⟨length_noticeRows message, by omega, by omega, ?_, rfl, rfl, ?_⟩
  · exact fun line hline => columns_of_mem_noticeRows hline
  · exact List.getLast?_concat

end Diagram

end Reflow
