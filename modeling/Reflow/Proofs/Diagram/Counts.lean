import Reflow.Proofs.Diagram.Scale

/-!
# Counts that are safe to draw

A scaled length may overflow on the way, be divided by a number close to zero or be undefined. The
comparison in front of each division and of each integer part keeps out what has no result, so that
only the number of columns itself could be too large for a double.

* `Checked.clampCount_eq`, `Checked.columnsOf_eq`, `Checked.proportions_eq`: checked arithmetic does
  not fail, and gives what the plain computations give.
* `Proportions.IsWithin`: the columns of an element, inside its container and past the edge.
* `checked_within_bounds`: all three computations, for all doubles.
-/

namespace Reflow

namespace Binary64

variable {x : Binary64}

theorem ofNat_zero : ofNat 0 = .finite false 0 := by decide +kernel

theorem isZero_iff : x.isZero ↔ ∃ negative, x = .finite negative 0 := by
  cases x <;> simp [isZero]

/-- Only a number other than zero is over zero. -/
theorem isZero_of_zero_lt (h : (ofNat 0).lt x) : x.isZero = false := by
  rw [← Bool.not_eq_true, isZero_iff]
  rintro ⟨negative, rfl⟩
  rw [ofNat_zero] at h
  cases negative <;> exact absurd h (by decide)

/-- Zero is at most zero. What cannot be compared is not, but is no zero either. -/
theorem isZero_of_not_le_zero (h : ¬ x.le (ofNat 0)) : x.isZero = false := by
  rw [← Bool.not_eq_true, isZero_iff]
  rintro ⟨negative, rfl⟩
  rw [ofNat_zero] at h
  cases negative <;> exact h (by decide)

end Binary64

namespace Scale

open Binary64

variable {columns : Int}

/-! ## Arithmetic that does not fail -/

namespace Checked

/-- The integer part is taken of finite counts only. -/
theorem clampCount_eq (count : Binary64) (limit : Int) :
    clampCount count limit = .ok (Scale.clampCount count limit) := by
  unfold clampCount
  rw [ofNat_zero]
  cases count with
  | nan => rfl
  | infinite negative => cases negative <;> rfl
  | finite negative units => rfl

/-- No divisor that is compared with zero is zero. -/
theorem columnsOf_eq (hcolumns : (Binary64.ofInt columns).isFinite) (pixels maxPixels : Binary64) :
    columnsOf pixels columns maxPixels = .ok (Scale.columnsOf pixels columns maxPixels) := by
  unfold columnsOf Scale.columnsOf
  split
  · rfl
  · next hle =>
    rw [Binary64.Checked.div_of_ne_zero (isZero_of_not_le_zero hle),
      Binary64.Checked.ofInt_of_isFinite hcolumns]
    exact clampCount_eq _ _

theorem proportions_eq (hcolumns : (Binary64.ofInt columns).isFinite)
    (element container : Binary64) :
    proportions element container columns = .ok (Proportions.of element container columns) := by
  have hpixel : pixelColumns container columns = .ok (if (Binary64.ofNat 0).lt container then
      (Binary64.ofInt columns).div container else .ofNat 0) := by
    unfold pixelColumns
    split
    · next hlt =>
      rw [Binary64.Checked.ofInt_of_isFinite hcolumns]
      exact Binary64.Checked.div_of_ne_zero (isZero_of_zero_lt hlt) _
    · rfl
  unfold proportions
  rw [hpixel]
  dsimp only [bind, Except.bind]
  rw [clampCount_eq]
  rfl

end Checked

/-- A number of columns past all doubles is refused. -/
example : (Checked.columnsOf (.ofNat 1) (twoPow 1024) (.ofNat 1)).toOption = none := by
  decide +kernel

/-! ## Bounds -/

/-- The columns inside a container are at most those that it has, and those past the edge at most as
many as may be drawn. There are some past the edge only if the container is full. -/
structure Proportions.IsWithin (p : Proportions) (columns : Int) : Prop where
  width_nonneg : 0 ≤ p.width
  width_le : p.width ≤ columns
  excess_nonneg : 0 ≤ p.excess
  excess_le : p.excess ≤ 60
  full : 0 < p.excess → p.width = columns

theorem Proportions.isWithin_of (hcolumns : 0 ≤ columns) (element container : Binary64) :
    (Proportions.of element container columns).IsWithin columns := by
  have hrepeat : maxRepeat = 60 := rfl
  have hlimit : 0 ≤ columns + maxRepeat := by omega
  unfold Proportions.of
  dsimp only
  generalize element.mul _ = count
  have hlow := clampCount_nonneg count hlimit
  have hhigh := clampCount_le count hlimit
  constructor <;> dsimp only <;> omega

theorem columnsOf_bounds (pixels maxPixels : Binary64) (columns : Int) :
    0 ≤ columnsOf pixels columns maxPixels ∧ columnsOf pixels columns maxPixels ≤ maxRepeat := by
  have hrepeat : 0 ≤ maxRepeat := by decide
  unfold columnsOf
  split
  · exact ⟨Int.le_refl 0, hrepeat⟩
  · exact ⟨clampCount_nonneg _ hrepeat, clampCount_le _ hrepeat⟩

/-- The three computations have a result for all doubles, and it is safe to draw: an element takes
no more columns than its container has and 60 past the edge, a count no more than its limit, and a
scaled length no more than 60. -/
theorem checked_within_bounds :
    (∀ (element container : Binary64) (columns : Int), 0 ≤ columns → columns ≤ 1000000 →
      Checked.proportions element container columns =
          .ok (Proportions.of element container columns) ∧
        (Proportions.of element container columns).IsWithin columns) ∧
      (∀ (count : Binary64) (limit : Int), 0 ≤ limit →
        ∃ n, Checked.clampCount count limit = .ok n ∧ 0 ≤ n ∧ n ≤ limit) ∧
      ∀ (pixels maxPixels : Binary64) (columns : Int), columns.natAbs ≤ 1000000 →
        ∃ n, Checked.columnsOf pixels columns maxPixels = .ok n ∧ 0 ≤ n ∧ n ≤ 60 := by
  have hmillion : 1000000 ≤ twoPow 970 := by decide +kernel
  have hfinite {columns : Int} (h : columns.natAbs ≤ 1000000) : (ofInt columns).isFinite :=
    isFinite_ofInt_of_natAbs_le (Nat.le_trans h hmillion)
  refine ⟨fun element container columns hcolumns hle => ?_, fun count limit hlimit => ?_,
    fun pixels maxPixels columns hle => ?_⟩
  · exact ⟨Checked.proportions_eq (hfinite (by omega)) _ _,
      Proportions.isWithin_of hcolumns element container⟩
  · exact ⟨_, Checked.clampCount_eq count limit, clampCount_nonneg count hlimit,
      clampCount_le count hlimit⟩
  · exact ⟨_, Checked.columnsOf_eq (hfinite hle) pixels maxPixels,
      columnsOf_bounds pixels maxPixels columns⟩

/-- An element of `10 ^ 308` pixels in a container of `10 ^ -300`: the scaled element is infinite. -/
theorem checked_within_bounds_infinite :
    let element : Binary64 := .ofDecimal false 1 308
    let container : Binary64 := .ofDecimal false 1 (-300)
    let p := Proportions.of element container 10
    ((0 : Int) ≤ 10 ∧ (10 : Int) ≤ 1000000 ∧ Checked.proportions element container 10 = .ok p ∧
        p.IsWithin 10 ∧ p.width = 10 ∧ p.excess = 60) ∧
      ((0 : Int) ≤ 7 ∧ ∃ n, Checked.clampCount (.infinite false) 7 = .ok n ∧ 0 ≤ n ∧ n ≤ 7) ∧
      (-1000000 : Int).natAbs ≤ 1000000 ∧
        ∃ n, Checked.columnsOf element (-1000000) container = .ok n ∧ 0 ≤ n ∧ n ≤ 60 := by
  intro element container p
  obtain ⟨helement, hcount, hcolumns⟩ := checked_within_bounds
  obtain ⟨hchecked, hwithin⟩ := helement element container 10 (by decide) (by decide)
  have hexcess : p.excess = 60 := by decide +kernel
  refine ⟨⟨by decide, by decide, hchecked, hwithin, hwithin.full ?_, hexcess⟩, ?_, ?_⟩
  · rw [hexcess]
    decide
  · exact ⟨by decide, hcount (.infinite false) 7 (by decide)⟩
  · exact ⟨by decide, hcolumns element container (-1000000) (by decide)⟩

end Scale

end Reflow
