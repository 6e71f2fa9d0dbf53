import Reflow.Proofs.Diagram.Scale
import Reflow.Proofs.Length.FirstNumbers

/-!
# Longer lengths are drawn longer

Whole numbers of pixels are read, scaled, cut down to whole columns and bounded. Each of these steps
keeps the order, so a longer length is not drawn shorter, with one exception: a length of zero
counts as none, and the standard length is drawn in its place.

* `Scale.estimateOr_pixelValue`, `Scale.estimateOr_pixelValue_zero`: the pixels of `0px` are the
  standard ones, those of every other whole number are the number.
* `Drawing.filledCells_overflowBar`: how much of a container with its margin an element fills.
* `Subject.drawing_mono`, `Subject.drawing_not_mono`: lengths over zero are drawn in their order,
  zero is not.
-/

namespace Reflow

open Text Palette

variable {m n standard : Nat}

/-! ## Pixels of a whole number -/

namespace Scale

open Binary64 Length

/-- A number and `px` in any case, blanks between them allowed, are that many pixels. -/
theorem estimate?_of_isSpacedPixelNumber {number : Numeral} {value : String}
    (h : IsSpacedPixelNumber number value.toList) : estimate? value = some number.toBinary64 := by
  obtain ⟨hwritten, blanks, p, x, hblanks, hp, hx, hvalue⟩ := h
  have hnumber : Numeral.read? value.toList = some (number, blanks ++ [p, x]) := by
    rw [hvalue]
    exact Numeral.read?_text hwritten (head?_blanks hblanks hp)
  have hunit : LengthUnit.read? (trimLeft (blanks ++ [p, x])) = some (.pixel, []) := by
    have hafter : afterWord? "px" (trimLeft (blanks ++ [p, x])) = some [] :=
      afterBlanks_eq_some_iff.2 ⟨blanks, p, x, hblanks, hp, hx, rfl⟩
    rw [LengthUnit.read?, hafter]
    rfl
  have hread : readLength? value.toList = some (number, .pixel, []) :=
    Option.bind_eq_some_iff.2 ⟨_, hnumber, Option.bind_eq_some_iff.2 ⟨_, hunit, rfl⟩⟩
  have hmatch : lengthPattern none value.toList = some value.toList.length :=
    patternOf_eq_some_iff.2 ⟨[], by rw [hread]; rfl, Nat.sub_zero _⟩
  have hfirst : lengthPattern.first? value.toList = some ⟨0, value.toList.length⟩ :=
    Pattern.first?_eq_some_iff.2 ⟨[], value.toList, rfl, rfl, hmatch, fun _ _ _ h => nomatch h⟩
  have hcut : Extent.cut ⟨0, value.toList.length⟩ value.toList = value.toList := List.take_length
  rw [estimate?, hfirst]
  refine Option.bind_eq_some_iff.2 ⟨_, rfl, ?_⟩
  rw [hcut, hread]
  rfl

/-- A whole number of pixels as a value. -/
def pixelValue (n : Nat) : String := toString n ++ "px"

theorem estimate?_pixelValue (n : Nat) :
    estimate? (pixelValue n) = some (.ofDecimal false n 0) := by
  have hwritten : Numeral.IsWritten ⟨Nat.toDigits 10 n, []⟩ :=
    ⟨Nat.toDigits_ne_nil, fun c hc => isDigit_of_isDigit (isDigit_of_mem_toDigits hc), by simp⟩
  have hvalue : (pixelValue n).toList = Nat.toDigits 10 n ++ ['p', 'x'] := by
    have hdigits : (toString n).toList = Nat.toDigits 10 n := String.toList_ofList
    rw [pixelValue, String.toList_append, hdigits]
    rfl
  have hspaced : IsSpacedPixelNumber ⟨Nat.toDigits 10 n, []⟩ (pixelValue n).toList :=
    ⟨hwritten, [], 'p', 'x', by simp, .inl rfl, .inl rfl, by simp [hvalue, Numeral.text]⟩
  rw [estimate?_of_isSpacedPixelNumber hspaced, Numeral.toBinary64, List.append_nil,
    numeral_toDigits]
  rfl

theorem isZero_ofDecimal_whole (hn : 0 < n) : (ofDecimal false n 0).isZero = false := by
  rcases ofDecimal_cases false n 0 with ⟨units, hunits⟩ | hinfinite
  · have hread : ofDecimal false n (-(0 : Nat)) = .finite false units := hunits
    have hone : 1 * unitsPerOne ≤ units :=
      le_units_of_ofDecimal hread (twoPow_pos 53) (by rw [Nat.one_mul]; exact hn)
    have hpos := unitsPerOne_pos
    rw [hunits]
    exact beq_false_of_ne (by omega)
  · rw [hinfinite]
    rfl

/-- A whole number of pixels over zero is drawn as it is. -/
theorem estimateOr_pixelValue (hn : 0 < n) :
    estimateOr standard (pixelValue n) = .ofDecimal false n 0 := by
  rw [estimateOr, estimate?_pixelValue, Option.filter_some, isZero_ofDecimal_whole hn]
  rfl

/-- In place of no pixels at all, the standard length is drawn. -/
theorem estimateOr_pixelValue_zero (hstandard : 0 < standard) (hfinite : standard < tenPow 310) :
    estimateOr standard (pixelValue 0) = estimateOr standard (pixelValue standard) := by
  have hzero : ofDecimal false 0 0 = .finite false 0 := by
    unfold ofDecimal
    exact if_pos rfl
  have hfilter : (some (finite false 0)).filter (!·.isZero) = none := rfl
  rw [estimateOr, estimate?_pixelValue, hzero, hfilter, Option.getD_none,
    estimateOr_pixelValue hstandard, ofDecimal_eq_ofNat hfinite]

theorem estimateOr_mono (standard : Nat) (hm : 0 < m) (h : m ≤ n) :
    UnsignedLe (estimateOr standard (pixelValue m)) (estimateOr standard (pixelValue n)) := by
  rw [estimateOr_pixelValue hm, estimateOr_pixelValue (Nat.lt_of_lt_of_le hm h)]
  exact ofDecimal_mono h

end Scale

/-! ## Rows -/

namespace Drawing

open Border Scale

/-- The cells of a row that an element fills, inside its container or past the edge. -/
def filledCells (row : String) : Nat := row.toList.countP fun c => c == solid || c == medium

/-- The cells of a row that padding fills. -/
def paddingCells (row : String) : Nat := row.toList.count light

theorem filledCells_append (s t : String) :
    filledCells (s ++ t) = filledCells s + filledCells t := by
  rw [filledCells, String.toList_append, List.countP_append, filledCells, filledCells]

theorem filledCells_fill (n : Nat) (c : Char) :
    filledCells (fill n c) = if c == solid || c == medium then n else 0 := by
  rw [filledCells, fill, String.toList_ofList, List.countP_replicate]

/-- An element fills its columns in the container, and at most three more. -/
theorem filledCells_overflowBar (element container : Binary64) (n : Nat) :
    filledCells (overflowBar element container n) =
      min (elementColumns element container n) (n + 3) := by
  have hvertical : filledCells (char vertical) = 0 := by decide
  have hspill : filledCells (char spill) = 0 := by decide
  have hsolid (k : Nat) : filledCells (fill k solid) = k := filledCells_fill k solid
  have hmedium (k : Nat) : filledCells (fill k medium) = k := filledCells_fill k medium
  have hspace (k : Nat) : filledCells (fill k ' ') = 0 := filledCells_fill k ' '
  rw [overflowBar_eq]
  split
  · simp only [spilling, filledCells_append, hvertical, hspill, hsolid, hmedium]
    omega
  · simp only [between, filledCells_append, hvertical, hsolid, hspace]
    omega

theorem paddingCells_padded (padding width : Nat) :
    paddingCells (Border.between (padded padding width)) = 2 * padding := by
  have happend (s t : String) : paddingCells (s ++ t) = paddingCells s + paddingCells t := by
    rw [paddingCells, String.toList_append, List.count_append, paddingCells, paddingCells]
  have hfill (k : Nat) (c : Char) : paddingCells (fill k c) = if c == light then k else 0 := by
    rw [paddingCells, fill, String.toList_ofList, List.count_replicate]
  have hvertical : paddingCells (char vertical) = 0 := by decide
  have hlight (k : Nat) : paddingCells (fill k light) = k := hfill k light
  have hsolid (k : Nat) : paddingCells (fill k solid) = 0 := hfill k solid
  simp only [between, padded, happend, hvertical, hlight, hsolid]
  omega

end Drawing

/-! ## Drawings -/

namespace Subject

open Drawing Scale

/-- The first row in the box of the first drawing. -/
def firstRow (s : Subject) (value : String) : String := (s.before value).getD 2 ""

/-- The second row in the box of the first drawing. -/
def secondRow (s : Subject) (value : String) : String := (s.before value).getD 3 ""

theorem filledCells_overflowBar_mono {container : Binary64} {columns : Nat}
    (hscale : (pixelColumns container columns).IsPositive) (hm : 0 < m) (h : m ≤ n) :
    filledCells (overflowBar (estimateOr standard (pixelValue m)) container columns) ≤
      filledCells (overflowBar (estimateOr standard (pixelValue n)) container columns) := by
  have hcolumns := elementColumns_mono hscale (estimateOr_mono standard hm h)
  rw [filledCells_overflowBar, filledCells_overflowBar]
  omega

theorem paddingOf_mono (standard : Nat) (hm : 0 < m) (h : m ≤ n) :
    paddingOf (estimateOr standard (pixelValue m)) ≤
      paddingOf (estimateOr standard (pixelValue n)) := by
  have hpixels : (Binary64.ofNat 40).IsPositive := by decide +kernel
  have hcolumns : (Binary64.ofInt 4).IsPositive := by decide +kernel
  have := columnsOf_mono hpixels hcolumns (estimateOr_mono standard hm h)
  rw [paddingOf, paddingOf]
  omega

/-- Of two lengths over zero, the longer one is not drawn shorter. A length of zero is drawn like
the standard one. -/
theorem drawing_mono (hm : 0 < m) (h : m ≤ n) :
    (∀ s ∈ [fixedDimensions, overflowHorizontal, viewportOverflow],
      filledCells (s.firstRow (pixelValue m)) ≤ filledCells (s.firstRow (pixelValue n))) ∧
    paddingCells (fixedSpacing.secondRow (pixelValue m)) ≤
      paddingCells (fixedSpacing.secondRow (pixelValue n)) ∧
    -- The standard lengths are not zero, so this is what breaks the order.
    ∀ drawn ∈ [(fixedDimensions, 600), (overflowHorizontal, 500), (viewportOverflow, 1920),
        (fixedSpacing, 40)],
      drawn.1.before (pixelValue 0) = drawn.1.before (pixelValue drawn.2) := by
  refine ⟨fun s hs => ?_, ?_, fun drawn hdrawn => ?_⟩
  · have hfixed (value : String) : fixedDimensions.firstRow value =
        overflowBar (estimateOr 600 value) (.ofNat 400) 20 := rfl
    have hsideways (value : String) : overflowHorizontal.firstRow value =
        overflowBar (estimateOr 500 value) (.ofNat 375) 18 := rfl
    have hviewport (value : String) : viewportOverflow.firstRow value =
        overflowBar (estimateOr 1920 value) (.ofNat 375) 15 := rfl
    simp only [List.mem_cons, List.not_mem_nil, or_false] at hs
    rcases hs with rfl | rfl | rfl
    · rw [hfixed, hfixed]
      exact filledCells_overflowBar_mono (by decide +kernel) hm h
    · rw [hsideways, hsideways]
      exact filledCells_overflowBar_mono (by decide +kernel) hm h
    · rw [hviewport, hviewport]
      exact filledCells_overflowBar_mono (by decide +kernel) hm h
  · have hcells (value : String) : paddingCells (fixedSpacing.secondRow value) =
        2 * paddingOf (estimateOr 40 value) := paddingCells_padded _ _
    have := paddingOf_mono 40 hm h
    rw [hcells, hcells]
    omega
  · simp only [List.mem_cons, List.not_mem_nil, or_false] at hdrawn
    rcases hdrawn with rfl | rfl | rfl | rfl
    all_goals
      simp only [before]
      rw [estimateOr_pixelValue_zero (by decide) (by decide +kernel)]

/-- Lengths of 100 and 300 pixels, and of none. -/
theorem drawing_mono_hundreds : 0 < 100 ∧ 100 ≤ 300 ∧
    filledCells (fixedDimensions.firstRow (pixelValue 100)) ≤
      filledCells (fixedDimensions.firstRow (pixelValue 300)) ∧
    paddingCells (fixedSpacing.secondRow (pixelValue 100)) ≤
      paddingCells (fixedSpacing.secondRow (pixelValue 300)) ∧
    fixedDimensions.before (pixelValue 0) = fixedDimensions.before (pixelValue 600) := by
  have hpos : 0 < 100 := by decide
  have hle : 100 ≤ 300 := by decide
  obtain ⟨hfilled, hpadding, hzero⟩ := drawing_mono hpos hle
  exact ⟨hpos, hle, hfilled fixedDimensions (by decide), hpadding,
    hzero (fixedDimensions, 600) (by decide)⟩

/-- A length of zero fills the container and the margin, a length of one pixel fills nothing. -/
theorem drawing_not_mono : ¬ ∀ m n, m ≤ n →
    filledCells (fixedDimensions.firstRow (pixelValue m)) ≤
      filledCells (fixedDimensions.firstRow (pixelValue n)) := by
  have hzero : filledCells (fixedDimensions.firstRow (pixelValue 0)) = 23 := by decide +kernel
  have hone : filledCells (fixedDimensions.firstRow (pixelValue 1)) = 0 := by decide +kernel
  intro h
  have := h 0 1 (Nat.zero_le 1)
  omega

end Subject

end Reflow
