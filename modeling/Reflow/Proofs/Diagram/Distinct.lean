import Reflow.Proofs.Diagram.Sizes

/-!
# Diagrams tell drawings apart

The drawings of a subject fit in their places and their rows end in ink, so no space that fills a row
up can be taken for a part of it. Two diagrams that differ in their drawings alone have different
texts therefore, and those of two subjects always do.

* `Drawing.IsClear`: drawings that can be read off a diagram. `Subject.isClear_drawing`: those of a
  subject are of this kind.
* `Diagram.comparison_inj`, `Diagram.text_compose_inj`: what a diagram shows tells its drawings.
* `Subject.eq_of_drawing_eq`: a drawing tells its subject.
-/

namespace Reflow

open Text Palette Border

/-- A text whose last character is no blank. -/
def EndsInInk (s : String) : Prop := s.toList.getLast?.any fun c => !isBlank c

instance (s : String) : Decidable (EndsInInk s) :=
  inferInstanceAs (Decidable (s.toList.getLast?.any _ = true))

section Ends

variable {s t : String} {c : Char}

theorem EndsInInk.ne_empty (h : EndsInInk s) : s ≠ "" := by
  rintro rfl
  cases h

theorem EndsInInk.append (ht : EndsInInk t) (s : String) : EndsInInk (s ++ t) := by
  unfold EndsInInk at ht ⊢
  rw [String.toList_append, List.getLast?_append]
  cases hlast : t.toList.getLast? with
  | none =>
    rw [hlast] at ht
    cases ht
  | some c => rwa [hlast] at ht

/-- No spaces behind such a text belong to it. -/
theorem EndsInInk.trimRight_append (h : EndsInInk s) (n : Nat) :
    trimRight (s ++ fill n ' ').toList = s.toList := by
  have hspaces : ∀ c ∈ (fill n ' ').toList, isBlank c := fun c hc => by
    rw [mem_fill hc]
    decide
  rw [String.toList_append, Text.trimRight_append hspaces]
  obtain ⟨a, c, hs⟩ := (List.eq_nil_or_concat' s.toList).resolve_left
    (mt String.toList_eq_nil_iff.1 h.ne_empty)
  have hc : isBlank c = false := by
    unfold EndsInInk at h
    rw [hs, List.getLast?_concat] at h
    simpa using h
  rw [hs, trimRight, List.reverse_concat, trimLeft, List.dropWhile_cons_of_neg (by simp [hc]),
    ← List.reverse_concat, List.reverse_reverse]

end Ends

/-! ## Drawings that can be read off a diagram -/

namespace Palette

/-- Ink takes room. -/
theorem charColumns_pos_of_isInk {c : Char} (h : isInk c) : 0 < charColumns c :=
  charColumns_pos fun hc => absurd (hc ▸ h) (by decide)

end Palette

namespace Drawing

/-- Rows that fit in so many columns, drawn with ink up to their ends. -/
structure AreClear (rows : List String) (width : Nat) : Prop where
  fits : Fits rows width 13
  inked : ∀ row ∈ rows, IsInked row
  ends : ∀ row ∈ rows, EndsInInk row

/-- Drawings that are shown as they are and end where the spaces behind them begin. -/
structure IsClear (d : Drawing) : Prop where
  before : AreClear d.before 27
  after : AreClear d.after 28

/-- What stands in a place of so many columns: a row that can be told from the spaces behind it, or
nothing. -/
structure IsClearIn (row : String) (width : Nat) : Prop where
  inked : IsInked row
  columns_le : columns row ≤ width
  ends : row = "" ∨ EndsInInk row

variable {rows rows' : List String} {width width' n : Nat}

theorem IsClear.isLines {d : Drawing} (hd : d.IsClear) : d.IsLines := by
  intro row hrow
  rcases List.mem_append.1 hrow with hrow | hrow
  · exact (hd.before.inked row hrow).isLine
  · exact (hd.after.inked row hrow).isLine

theorem AreClear.getD (h : AreClear rows width) (i : Nat) : IsClearIn (rows.getD i "") width := by
  have hempty : IsClearIn "" width := ⟨.ofList rfl, Nat.zero_le _, .inl rfl⟩
  have hrows : ∀ row ∈ rows, IsClearIn row width := fun row hrow =>
    ⟨h.inked row hrow, h.fits.columns_le row hrow, .inr (h.ends row hrow)⟩
  exact getD_of_forall_mem hrows hempty i

theorem AreClear.empty_notMem (h : AreClear rows width) : "" ∉ rows :=
  fun hrow => (h.ends "" hrow).ne_empty rfl

/-- Clear rows are the same if there is the same at every place. -/
theorem AreClear.eq_of_getD (h : AreClear rows width) (h' : AreClear rows' width')
    (hlength : rows.length ≤ n) (hlength' : rows'.length ≤ n)
    (hrows : ∀ i < n, rows.getD i "" = rows'.getD i "") : rows = rows' := by
  refine List.ext_getElem? fun i => ?_
  by_cases hi : i < n
  · exact getElem?_eq_of_getD_eq h.empty_notMem h'.empty_notMem (hrows i hi)
  · rw [List.getElem?_eq_none (by omega), List.getElem?_eq_none (by omega)]

end Drawing

namespace Diagram

open Drawing

variable {d d' : Drawing} {s t : String} {width m n : Nat}

/-- What is in front of the spaces that fill a place up. -/
theorem eq_of_append_fill (hs : s = "" ∨ EndsInInk s) (ht : t = "" ∨ EndsInInk t)
    (h : s ++ fill m ' ' = t ++ fill n ' ') : s = t := by
  have htrim {s : String} (hs : s = "" ∨ EndsInInk s) (n : Nat) :
      trimRight (s ++ fill n ' ').toList = s.toList := by
    rcases hs with rfl | hs
    · have hspaces : ∀ c ∈ (fill n ' ').toList, isBlank c := fun c hc => by
        rw [mem_fill hc]
        decide
      rw [String.toList_append, trimRight_append hspaces]
      rfl
    · exact hs.trimRight_append n
  have hlists := congrArg (fun s : String => trimRight s.toList) h
  rw [htrim hs, htrim ht] at hlists
  exact String.toList_inj.1 hlists

/-- A place of the given columns: a margin, a row and spaces up to the end. -/
def place (margin row : String) (width : Nat) : String :=
  margin ++ row ++ fill (width - columns row) ' '

theorem columns_place {margin row : String} (h : columns row ≤ width) :
    columns (place margin row width) = columns margin + width := by
  rw [place, columns_append, columns_append, columns_fill, charColumns_space]
  omega

theorem isInked_place {margin row : String} (hmargin : IsInked margin) (hrow : IsInked row)
    (width : Nat) : IsInked (place margin row width) :=
  (hmargin.append hrow).append (.fill (by decide) _)

/-- Two places with the same margin that look the same hold the same row. -/
theorem row_eq_of_place {margin : String} {width width' : Nat} (hs : s = "" ∨ EndsInInk s)
    (ht : t = "" ∨ EndsInInk t) (h : place margin s width = place margin t width') : s = t := by
  rw [place, place, String.append_assoc, String.append_assoc] at h
  exact eq_of_append_fill hs ht ((String.append_right_inj margin).1 h)

/-- Rows side by side tell each of the two, if both fit in their places. -/
theorem sideBySide_inj {left left' right right' : String} (hl : IsClearIn left 27)
    (hl' : IsClearIn left' 27) (hr : IsClearIn right 28) (hr' : IsClearIn right' 28)
    (h : sideBySide left right = sideBySide left' right') : left = left' ∧ right = right' := by
  have hplaces (left right : String) : (sideBySide left right).toList =
      vertical :: ((place "  " left 27).toList ++ (place " " right 28).toList) ++ [vertical] := by
    simp [sideBySide, place, between, char]
  have hmargin : IsInked "  " := .ofList (by decide)
  have hrows := congrArg String.toList h
  rw [hplaces, hplaces] at hrows
  have hrows := (List.cons.inj (List.append_cancel_right hrows)).2
  obtain ⟨hleft, hright⟩ := append_inj_of_columns hrows
    ((columns_place hl.columns_le).trans (columns_place hl'.columns_le).symm)
    (fun c hc => charColumns_pos_of_isInk (isInked_place hmargin hl.inked 27 c hc))
    (fun c hc => charColumns_pos_of_isInk (isInked_place hmargin hl'.inked 27 c hc))
  exact ⟨row_eq_of_place hl.ends hl'.ends (String.toList_inj.1 hleft),
    row_eq_of_place hr.ends hr'.ends (String.toList_inj.1 hright)⟩

/-- Clear drawings can be read off their comparison. -/
theorem comparison_inj (hd : d.IsClear) (hd' : d'.IsClear) (h : comparison d = comparison d') :
    d = d' := by
  rw [comparison_of_fits hd.before.fits hd.after.fits,
    comparison_of_fits hd'.before.fits hd'.after.fits] at h
  have hrows := (List.cons.inj h).2
  have hcount : max d.before.length d.after.length = max d'.before.length d'.after.length := by
    simpa using congrArg List.length hrows
  rw [← hcount] at hrows
  have hrow (i : Nat) (hi : i < max d.before.length d.after.length) :=
    sideBySide_inj (hd.before.getD i) (hd'.before.getD i) (hd.after.getD i) (hd'.after.getD i)
      (List.map_inj_left.1 hrows i (List.mem_range.2 hi))
  obtain ⟨before, after⟩ := d
  obtain ⟨before', after'⟩ := d'
  have hbefore : before = before' := hd.before.eq_of_getD hd'.before (Nat.le_max_left _ _)
    (hcount ▸ Nat.le_max_left _ _) fun i hi => (hrow i hi).1
  have hafter : after = after' := hd.after.eq_of_getD hd'.after (Nat.le_max_right _ _)
    (hcount ▸ Nat.le_max_right _ _) fun i hi => (hrow i hi).2
  rw [hbefore, hafter]

/-- The diagrams of a request with clear drawings have the same text only if the drawings are the
same, however its own texts may break into lines. -/
theorem text_compose_inj {title number : String} {r : Request} (hd : d.IsClear)
    (hd' : d'.IsClear)
    (h : (compose title number r d).text = (compose title number r d').text) : d = d' := by
  have htext (d : Drawing) : (compose title number r d).text =
      "\n".intercalate (header title number r) ++ "\n" ++ ("\n".intercalate (comparison d) ++
        "\n" ++ "\n".intercalate (measurements r ++ [bottom innerWidth])) := by
    have hheader : header title number r ≠ [] := List.cons_ne_nil _ _
    have hcomparison : comparison d ≠ [] := List.cons_ne_nil _ _
    have hrest : measurements r ++ [bottom innerWidth] ≠ [] := by simp
    rw [text_compose, allRows, List.append_assoc, List.append_assoc,
      intercalate_append "\n" hheader (List.append_ne_nil_of_left_ne_nil hcomparison _),
      intercalate_append "\n" hcomparison hrest]
  have hlines {d : Drawing} (hd : d.IsClear) :
      Text.lines ("\n".intercalate (comparison d)).toList = (comparison d).map String.toList :=
    lines_intercalate_of_isLine (List.cons_ne_nil _ _) fun row hrow =>
      isLine_of_mem_comparison hd.isLines hrow
  rw [htext, htext, String.append_right_inj, String.append_left_inj, String.append_left_inj] at h
  have hrows := hlines hd
  rw [h, hlines hd'] at hrows
  have hinj : Function.Injective String.toList := fun _ _ => String.toList_injective
  exact comparison_inj hd hd' (List.map_injective_iff.2 hinj hrows).symm

end Diagram

/-! ## Drawings of subjects -/

namespace Drawing

variable {caption content : String} {rows : List String} {n : Nat}

theorem endsInInk_char {c : Char} (h : isBlank c = false) : EndsInInk (char c) := by
  have hlist : (char c).toList = [c] := String.toList_ofList
  rw [EndsInInk, hlist]
  simpa using h

@[simp] theorem endsInInk_between (content : String) : EndsInInk (between content) :=
  (endsInInk_char (by decide)).append _

@[simp] theorem endsInInk_row (content : String) (width : Int) : EndsInInk (row content width) :=
  endsInInk_between _

@[simp] theorem endsInInk_filled (n : Nat) (filling : Char) : EndsInInk (filled n filling) :=
  endsInInk_between _

@[simp] theorem endsInInk_spilling (content : String) : EndsInInk (spilling content) :=
  (endsInInk_char (by decide)).append _

@[simp] theorem endsInInk_overflowBar (element container : Binary64) (n : Nat) :
    EndsInInk (overflowBar element container n) := by
  unfold overflowBar
  dsimp only
  split
  · exact endsInInk_spilling _
  · exact endsInInk_between _

@[simp] theorem endsInInk_offsetRow (offset : Nat) : EndsInInk (offsetRow offset) := by
  unfold offsetRow
  dsimp only
  split
  · exact endsInInk_spilling _
  · exact endsInInk_row _ _

theorem endsInInk_boxed (hcaption : EndsInInk caption) (hrows : ∀ row ∈ rows, EndsInInk row) :
    ∀ row ∈ boxed caption n rows, EndsInInk row := by
  intro row h
  rcases mem_boxed.1 h with rfl | rfl | h | rfl
  · exact hcaption
  · exact (endsInInk_char (by decide)).append _
  · exact hrows row h
  · exact (endsInInk_char (by decide)).append _

theorem take_boxed : (boxed caption n rows).take 2 = [caption, top n] := rfl

theorem endsInInk_itemRows (total : Nat) : ∀ row ∈ itemRows total, EndsInInk row := by
  intro row h
  obtain ⟨i, -, rfl⟩ := List.mem_map.1 h
  exact endsInInk_row _ _

end Drawing

namespace Subject

open Drawing

variable {s t : Subject}

theorem endsInInk_before (s : Subject) (value : String) :
    ∀ row ∈ s.before value, EndsInInk row := by
  cases s with
  | gridRigidity =>
    exact endsInInk_boxed (EndsInInk.append (t := " fixed tracks") (by decide) _) (by simp)
  | mediaInstability =>
    exact endsInInk_boxed (by decide)
      (by simp [EndsInInk.append (t := " breaks") (by decide)])
  | overflowMasking =>
    exact endsInInk_boxed (by decide)
      (by simp [EndsInInk.append (t := " hidden") (by decide)])
  | _ => exact endsInInk_boxed (by decide) (by simp)

theorem endsInInk_after (s : Subject) (value : String) : ∀ row ∈ s.after value, EndsInInk row := by
  cases s with
  | flexFragility => exact endsInInk_boxed (by decide) (endsInInk_itemRows _)
  | gridRigidity => exact endsInInk_boxed (by decide) (endsInInk_itemRows _)
  | mediaInstability =>
    exact endsInInk_boxed (by decide)
      (by simp [EndsInInk.append (t := " stable") (by decide)])
  | _ => exact endsInInk_boxed (by decide) (by simp)

theorem isClear_drawing (s : Subject) (value : String) :
    (⟨s.before value, s.after value⟩ : Drawing).IsClear where
  before := ⟨s.fits_before value, s.isInked_before value, s.endsInInk_before value⟩
  after := ⟨s.fits_after value, s.isInked_after value, s.endsInInk_after value⟩

/-- The caption of the second drawing and the width of its box tell the subject. -/
theorem eq_of_drawing_eq {value other : String}
    (h : (⟨s.before value, s.after value⟩ : Drawing) = ⟨t.before other, t.after other⟩) : s = t := by
  have htop (s : Subject) (value : String) : (s.after value).take 2 = (s.after "").take 2 := by
    cases s <;> exact take_boxed.trans take_boxed.symm
  have hall : ∀ s ∈ all, ∀ t ∈ all, (s.after "").take 2 = (t.after "").take 2 → s = t := by
    decide +kernel
  have hmem (s : Subject) : s ∈ all := by cases s <;> decide
  refine hall s (hmem s) t (hmem t) ?_
  rw [← htop s value, ← htop t other, (Drawing.mk.inj h).2]

end Subject

end Reflow
