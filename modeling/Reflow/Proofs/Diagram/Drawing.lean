import Reflow.Diagram.Drawing
import Reflow.Proofs.Diagram.Frame

/-!
# What drawings are made of

Whatever the value, the drawings of a subject are drawn with ink: printable ASCII and the palette.

* `Palette.IsInked`: texts drawn with ink, which are lines.
* `Subject.isInked_before`, `Subject.isInked_after`: every row of the two drawings, which are
  lines therefore (`Subject.isLines_drawing`).
-/

namespace Reflow

open Palette Text Border

namespace Palette

/-- A character that rows are drawn with: printable ASCII or a character of the palette. -/
def isInk (c : Char) : Bool := (' ' ≤ c && c ≤ '~') || all.contains c

/-- A text drawn with ink. -/
def IsInked (s : String) : Prop := ∀ c ∈ s.toList, isInk c

variable {s t : String} {c : Char}

theorem IsInked.isLine (h : IsInked s) : IsLine s := fun hm => absurd (h _ hm) (by decide)

/-- Ink has the palette. -/
theorem isInk_palette : (' ' :: all).all isInk := by decide

theorem IsInked.append (hs : IsInked s) (ht : IsInked t) : IsInked (s ++ t) := MadeOf.append hs ht

theorem isInked_ofList {cs : List Char} : IsInked (String.ofList cs) ↔ ∀ c ∈ cs, isInk c :=
  madeOf_ofList

theorem IsInked.ofList {cs : List Char} (h : cs.all isInk) : IsInked (String.ofList cs) :=
  MadeOf.ofList h

theorem IsInked.fill (h : isInk c) (n : Nat) : IsInked (fill n c) := MadeOf.fill h n

theorem IsInked.char (h : isInk c) : IsInked (char c) := madeOf_char h

theorem IsInked.between (h : IsInked s) : IsInked (between s) := madeOf_between isInk_palette h

theorem IsInked.row (h : IsInked s) (width : Int) : IsInked (row s width) :=
  madeOf_row isInk_palette h width

theorem isInk_of_isDigit (h : c.isDigit) : isInk c := by
  simp only [Char.isDigit, Bool.and_eq_true, decide_eq_true_eq] at h
  have hlow : ' ' ≤ c := Char.le_def.2 (UInt32.le_trans (by decide) h.1)
  have hhigh : c ≤ '~' := Char.le_def.2 (UInt32.le_trans h.2 (by decide))
  simp only [isInk, hlow, hhigh, decide_true, Bool.and_true, Bool.true_or]

theorem isInked_toString (n : Nat) : IsInked (toString n) :=
  madeOf_toString_nat (fun _ => isInk_of_isDigit) n

theorem isInked_single (hs : IsInked s) : ∀ row ∈ [s], IsInked row :=
  List.forall_mem_singleton.2 hs

theorem isInked_pair (hs : IsInked s) (ht : IsInked t) : ∀ row ∈ [s, t], IsInked row :=
  List.forall_mem_cons.2 ⟨hs, isInked_single ht⟩

end Palette

namespace Drawing

variable {caption content : String} {width : Nat} {rows : List String}

theorem mem_boxed {row : String} : row ∈ boxed caption width rows ↔
    row = caption ∨ row = top width ∨ row ∈ rows ∨ row = bottom width := by
  simp only [boxed, List.cons_append, List.mem_cons, List.mem_append, List.not_mem_nil, or_false]

theorem isInked_boxed (hc : IsInked caption) (hrows : ∀ row ∈ rows, IsInked row) :
    ∀ row ∈ boxed caption width rows, IsInked row := by
  intro row h
  rcases mem_boxed.1 h with rfl | rfl | h | rfl
  · exact hc
  · exact madeOf_top isInk_palette width
  · exact hrows row h
  · exact madeOf_bottom isInk_palette width

theorem isInked_filled {filling : Char} (h : isInk filling) : IsInked (filled width filling) :=
  (IsInked.fill h width).between

theorem isInked_spilling (h : IsInked content) : IsInked (spilling content) :=
  ((IsInked.char (by decide)).append h).append (.char (by decide))

theorem isInked_overflowBar (element container : Binary64) (columns : Nat) :
    IsInked (overflowBar element container columns) := by
  unfold overflowBar
  dsimp only
  split
  · exact isInked_spilling ((IsInked.fill (by decide) _).append (.fill (by decide) _))
  · exact ((IsInked.fill (by decide) _).append (.fill (by decide) _)).between

theorem isInked_itemRow (count : Nat) : IsInked (itemRow count) := by
  refine isInked_ofList.2 fun c hc => ?_
  obtain ⟨item, hitem, hc⟩ := List.mem_flatten.1 hc
  have hall : (List.replicate 5 solid ++ [' ']).all isInk := by decide
  exact List.all_eq_true.1 hall c (List.eq_of_mem_replicate hitem ▸ hc)

theorem isInked_itemRows (total : Nat) : ∀ row ∈ itemRows total, IsInked row := by
  intro row h
  obtain ⟨i, -, rfl⟩ := List.mem_map.1 h
  exact (isInked_itemRow _).row container

theorem isInked_padded (padding width : Nat) : IsInked (padded padding width) :=
  ((IsInked.fill (by decide) _).append (.fill (by decide) _)).append (.fill (by decide) _)

theorem isInked_paddedBox (hc : IsInked caption) (padding : Nat) :
    ∀ row ∈ paddedBox caption padding, IsInked row := by
  have hband : IsInked (filled container light) := isInked_filled (by decide)
  have hcontent := (isInked_padded padding container).between
  refine isInked_boxed hc (List.forall_mem_cons.2 ⟨hband, List.forall_mem_cons.2 ⟨hcontent, ?_⟩⟩)
  exact isInked_pair hcontent hband

theorem isInked_offsetRow (offset : Nat) : IsInked (offsetRow offset) := by
  have hcontent : IsInked (fill offset ' ' ++ fill 6 solid) :=
    (IsInked.fill (by decide) _).append (.fill (by decide) _)
  unfold offsetRow
  dsimp only
  split
  · exact isInked_spilling (isInked_ofList.2 fun c hc => hcontent c (List.mem_of_mem_take hc))
  · exact hcontent.row container

end Drawing

namespace Subject

open Drawing

theorem isInked_before (s : Subject) (value : String) : ∀ row ∈ s.before value, IsInked row := by
  cases s with
  | fixedDimensions =>
    exact isInked_boxed (.ofList (by decide))
      (isInked_pair (isInked_overflowBar _ _ _) (isInked_overflowBar _ _ _))
  | viewportOverflow =>
    exact isInked_boxed (.ofList (by decide)) (isInked_single (isInked_overflowBar _ _ _))
  | flexFragility =>
    exact isInked_boxed (.ofList (by decide)) (isInked_single
      (isInked_spilling ((isInked_itemRow _).append (.fill (by decide) _))))
  | gridRigidity =>
    exact isInked_boxed ((isInked_toString _).append (.ofList (by decide)))
      (isInked_pair (isInked_spilling (isInked_itemRow _)) (isInked_spilling (isInked_itemRow _)))
  | fixedSpacing => exact isInked_paddedBox (.ofList (by decide)) _
  | mediaInstability =>
    exact isInked_boxed (.ofList (by decide)) (isInked_pair
      ((isInked_spilling ((IsInked.fill (by decide) _).append (.fill (by decide) _))).append
        (.ofList (by decide)))
      (isInked_filled (by decide)))
  | overflowMasking =>
    exact isInked_boxed (.ofList (by decide)) (isInked_pair (isInked_filled (by decide))
      ((((IsInked.char (by decide)).append (.fill (by decide) _)).append
        (.char (by decide))).append (.ofList (by decide))))
  | breakpointExceeded =>
    exact isInked_boxed (.ofList (by decide)) (isInked_single (isInked_overflowBar _ _ _))
  | absoluteRigidity =>
    exact isInked_boxed (.ofList (by decide))
      (isInked_pair (isInked_offsetRow _) (isInked_offsetRow _))
  | boxInconsistency =>
    exact isInked_boxed (.ofList (by decide))
      (isInked_single (isInked_spilling (isInked_padded _ _)))
  | overflowHorizontal =>
    exact isInked_boxed (.ofList (by decide)) (isInked_pair (isInked_overflowBar _ _ _)
      ((IsInked.fill (by decide) _).append (.fill (by decide) _)).between)
  | nowrapFixed =>
    exact isInked_boxed (.ofList (by decide)) (isInked_single
      (isInked_spilling ((IsInked.ofList (by decide)).append (.char (by decide)))))

theorem isInked_after (s : Subject) (value : String) : ∀ row ∈ s.after value, IsInked row := by
  have hsolid {width : Nat} : IsInked (filled width solid) := isInked_filled (by decide)
  cases s with
  | fixedDimensions => exact isInked_boxed (.ofList (by decide)) (isInked_pair hsolid hsolid)
  | viewportOverflow => exact isInked_boxed (.ofList (by decide)) (isInked_single hsolid)
  | flexFragility => exact isInked_boxed (.ofList (by decide)) (isInked_itemRows _)
  | gridRigidity => exact isInked_boxed (.ofList (by decide)) (isInked_itemRows _)
  | fixedSpacing => exact isInked_paddedBox (.ofList (by decide)) _
  | mediaInstability =>
    exact isInked_boxed (.ofList (by decide))
      (isInked_pair (hsolid.append (.ofList (by decide))) hsolid)
  | overflowMasking => exact isInked_boxed (.ofList (by decide)) (isInked_pair hsolid hsolid)
  | breakpointExceeded => exact isInked_boxed (.ofList (by decide)) (isInked_single hsolid)
  | absoluteRigidity =>
    exact isInked_boxed (.ofList (by decide))
      (isInked_pair (isInked_offsetRow _) (isInked_offsetRow _))
  | boxInconsistency =>
    exact isInked_boxed (.ofList (by decide))
      (isInked_single (isInked_padded _ _).between)
  | overflowHorizontal => exact isInked_boxed (.ofList (by decide)) (isInked_single hsolid)
  | nowrapFixed =>
    refine isInked_boxed (.ofList (by decide)) fun row h => ?_
    obtain ⟨line, hline, rfl⟩ := List.mem_map.1 h
    have hwrapped : ∀ line ∈ wrap sampleWidth sampleText.toList, line.all isInk := by
      decide +kernel
    exact (IsInked.ofList (hwrapped line hline)).row sampleWidth

/-- The drawings of a subject consist of lines. -/
theorem isLines_drawing (s : Subject) (value : String) :
    (⟨s.before value, s.after value⟩ : Drawing).IsLines := by
  intro row h
  rcases List.mem_append.1 h with h | h
  · exact (s.isInked_before value row h).isLine
  · exact (s.isInked_after value row h).isLine

theorem isLine_title (s : Subject) : IsLine s.title := by
  cases s <;> decide

end Subject

end Reflow
