import Reflow.Diagram.Drawing
import Reflow.Proofs.Binary64.Monotone

/-!
# Bounds and order of scaled lengths

A computed count may be anything, infinite and undefined ones among them. What is drawn of it lies
between zero and a limit, and of a greater count not less is drawn.

* `clampCount_nonneg`, `clampCount_le`, `clampCount_mono`: counts within their limit.
* `elementColumns`: the columns of an element on the scale of its container, before they are parted
  at the edge (`Proportions.width_of`, `Proportions.excess_of`).
* `elementColumns_mono`, `columnsOf_mono`: a longer element has not fewer columns.
* `overflowBar_eq`: the row of an element by its columns.
-/

namespace Reflow

namespace Scale

open Binary64

variable {limit : Int}

/-! ## Counts -/

theorem clampCount_nonneg (count : Binary64) (hlimit : 0 ≤ limit) : 0 ≤ clampCount count limit := by
  cases count with
  | nan => exact Int.le_refl 0
  | infinite negative => cases negative <;> simp [clampCount, hlimit]
  | finite negative units => exact Int.le_max_left 0 _

theorem clampCount_le (count : Binary64) (hlimit : 0 ≤ limit) : clampCount count limit ≤ limit := by
  cases count with
  | nan => exact hlimit
  | infinite negative => cases negative <;> simp [clampCount, hlimit]
  | finite negative units => exact Int.max_le.2 ⟨hlimit, Int.min_le_right _ _⟩

/-- Of two counts, the greater one is not drawn with less. -/
theorem clampCount_mono {count count' : Binary64} (hlimit : 0 ≤ limit)
    (h : UnsignedLe count count') : clampCount count limit ≤ clampCount count' limit := by
  have hfinite (units : Nat) : clampCount (.finite false units) limit =
      max 0 (min ((units / unitsPerOne : Nat) : Int) limit) := rfl
  have hinfinite : clampCount (.infinite false) limit = limit := rfl
  cases h with
  | finite h =>
    have hwhole := Nat.div_le_div_right (c := unitsPerOne) h
    rw [hfinite, hfinite]
    omega
  | past m =>
    rw [hinfinite]
    exact clampCount_le _ hlimit
  | infinite => exact Int.le_refl _

/-! ## Columns of elements -/

/-- The columns of one pixel of a container of `n` columns. -/
def pixelColumns (container : Binary64) (n : Nat) : Binary64 :=
  if (Binary64.ofNat 0).lt container then (Binary64.ofInt n).div container else .ofNat 0

/-- The columns of an element on the scale of a container of `n` columns, those past the edge
included. -/
def elementColumns (element container : Binary64) (n : Nat) : Nat :=
  (clampCount (element.mul (pixelColumns container n)) (n + maxRepeat)).toNat

theorem elementLimit_nonneg (n : Nat) : 0 ≤ (n : Int) + maxRepeat := by
  rw [maxRepeat]
  omega

theorem natCast_elementColumns (element container : Binary64) (n : Nat) :
    (elementColumns element container n : Int) =
      clampCount (element.mul (pixelColumns container n)) (n + maxRepeat) :=
  Int.toNat_of_nonneg (clampCount_nonneg _ (elementLimit_nonneg n))

/-- Of two elements in one container, the longer one has not fewer columns. -/
theorem elementColumns_mono {element element' container : Binary64} {n : Nat}
    (hscale : (pixelColumns container n).IsPositive) (h : UnsignedLe element element') :
    elementColumns element container n ≤ elementColumns element' container n := by
  have hcount := clampCount_mono (elementLimit_nonneg n) (mul_mono hscale h)
  rwa [← natCast_elementColumns, ← natCast_elementColumns, Int.ofNat_le] at hcount

/-- Of two lengths on one scale, the longer one has not fewer columns. -/
theorem columnsOf_mono {pixels pixels' maxPixels : Binary64} {maxColumns : Int}
    (hpixels : maxPixels.IsPositive) (hcolumns : (Binary64.ofInt maxColumns).IsPositive)
    (h : UnsignedLe pixels pixels') :
    columnsOf pixels maxColumns maxPixels ≤ columnsOf pixels' maxColumns maxPixels := by
  unfold columnsOf
  split
  · exact Int.le_refl 0
  · have hlimit : 0 ≤ maxRepeat := by decide
    exact clampCount_mono hlimit (mul_mono hcolumns (div_mono hpixels h))

namespace Proportions

variable (element container : Binary64) (n : Nat)

theorem width_of : (Proportions.of element container n).width =
    min (elementColumns element container n : Int) n := by
  rw [natCast_elementColumns]
  rfl

theorem excess_of : (Proportions.of element container n).excess =
    max 0 ((elementColumns element container n : Int) - n) := by
  rw [natCast_elementColumns]
  rfl

theorem overflows_of_iff :
    (Proportions.of element container n).overflows ↔ n < elementColumns element container n := by
  rw [overflows, decide_eq_true_eq, excess_of]
  omega

end Proportions

end Scale

namespace Drawing

open Palette Text Border Scale

/-- An element that fits is as wide as its columns; of what does not fit at most three columns are
drawn past the edge. -/
theorem overflowBar_eq (element container : Binary64) (n : Nat) :
    overflowBar element container n =
      if n < elementColumns element container n then
        spilling (fill n solid ++ fill (min (elementColumns element container n - n) 3) medium)
      else between (fill (elementColumns element container n) solid ++
        fill (n - elementColumns element container n) ' ') := by
  have hspill : maxSpill = 3 := rfl
  have hcolumns := Proportions.overflows_of_iff element container n
  rw [overflowBar, Proportions.width_of, Proportions.excess_of, hspill]
  generalize elementColumns element container n = columns at *
  by_cases h : n < columns
  · have hwidth : (min (columns : Int) n).toNat = n := by omega
    have hexcess : (min (max 0 ((columns : Int) - n)) 3).toNat = min (columns - n) 3 := by omega
    rw [if_pos (hcolumns.2 h), if_pos h, hwidth, hexcess]
  · have hwidth : (min (columns : Int) n).toNat = columns := by omega
    have hrest : (n - min (columns : Int) n).toNat = n - columns := by omega
    rw [if_neg (mt hcolumns.1 h), if_neg h, hwidth, hrest]

end Drawing

end Reflow
