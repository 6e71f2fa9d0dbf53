import Mathlib.Logic.Basic
import Reflow.Binary64

/-!
# Order and range of doubles

* `Binary64.lt_of_le_of_lt`: a number over a bound is over every lower bound.
* `Binary64.round_cases`, `Binary64.ofDecimal_cases`: rounding gives a finite double or an infinity,
  never an undefined one.
* `Binary64.roundDiv_step_le`, `Binary64.le_roundDiv_step`: rounding keeps 53 binary digits.
* `Binary64.isFinite_ofInt_iff`: the integers that round to finite doubles. They end half a unit in
  the last place after the greatest double (`isFinite_ofInt_of_natAbs_le` for small ones).
* `Binary64.isFinite_ofInt_of_truncate?`: the integer part of a double is such an integer.
* `Binary64.le_units_of_ofDecimal`, `Binary64.units_le_of_ofDecimal`: reading a decimal number does
  not take it past an integer below `2 ^ 53`, for doubles hold these integers.
-/

namespace Reflow.Binary64

/-! ## Order -/

/-- A number over a bound is over every lower bound. -/
theorem lt_of_le_of_lt {a b c : Binary64} (hab : a.le b) (hbc : b.lt c) : a.lt c := by
  cases a <;> cases b <;> cases c <;> simp_all [le, lt]
  omega

/-! ## Results of rounding -/

/-- The units that a fraction is rounded to, of a double or too many for one. -/
def roundedUnits (num den : Nat) : Nat :=
  roundDiv num (den * twoPow (droppedBits (num / den))) * twoPow (droppedBits (num / den))

theorem round_eq (negative : Bool) (num den : Nat) : round negative num den =
    if roundedUnits num den < unitsLimit then .finite negative (roundedUnits num den)
    else .infinite negative := rfl

theorem round_cases (negative : Bool) (num den : Nat) :
    (∃ units, round negative num den = .finite negative units) ∨
      round negative num den = .infinite negative := by
  rw [round_eq]
  split
  · exact .inl ⟨_, rfl⟩
  · exact .inr rfl

/-- A decimal number is read as a finite double or as infinite, with its sign. -/
theorem ofDecimal_cases (negative : Bool) (digits : Nat) (exponent : Int) :
    (∃ units, ofDecimal negative digits exponent = .finite negative units) ∨
      ofDecimal negative digits exponent = .infinite negative := by
  unfold ofDecimal
  dsimp only
  split
  · exact .inl ⟨_, rfl⟩
  split
  · exact .inr rfl
  split
  · exact .inl ⟨_, rfl⟩
  split
  · exact round_cases _ _ _
  · exact round_cases _ _ _

theorem tenPow_pos (n : Nat) : 0 < tenPow n := Nat.pow_pos (by decide)

/-- A decimal number that is read as a finite double is rounded, or is less than one and read as
zero. -/
theorem round_of_ofDecimal {negative : Bool} {digits places units : Nat}
    (h : ofDecimal negative digits (-(places : Int)) = .finite negative units) :
    round negative (digits * unitsPerOne) (tenPow places) = .finite negative units ∨
      units = 0 ∧ digits < tenPow places := by
  unfold ofDecimal at h
  dsimp only at h
  split at h
  · next hzero =>
    cases h
    exact .inr ⟨rfl, hzero ▸ tenPow_pos places⟩
  split at h
  · cases h
  split at h
  · next hsmall =>
    cases h
    have hpos : 0 < (Nat.toDigits 10 digits).length := Nat.length_toDigits_pos
    have hdigits : digits < Nat.pow 10 (Nat.toDigits 10 digits).length :=
      (Nat.length_toDigits_le_iff (by decide) hpos).1 (Nat.le_refl _)
    refine .inr ⟨rfl, Nat.lt_of_lt_of_le hdigits (Nat.pow_le_pow_right (by decide) ?_)⟩
    omega
  split at h
  · next hexponent =>
    have hplaces : places = 0 := by omega
    subst hplaces
    have hone : tenPow 0 = 1 := rfl
    left
    rw [hone]
    simpa only [Int.natCast_zero, Int.neg_zero, Int.toNat_zero, hone, Nat.mul_one] using h
  · left
    simpa only [Int.neg_neg, Int.toNat_natCast] using h

/-! ## Range -/

theorem twoPow_pos (n : Nat) : 0 < twoPow n := Nat.pow_pos (by decide)

theorem unitsPerOne_pos : 0 < unitsPerOne := twoPow_pos 1074

theorem twoPow_add (m n : Nat) : twoPow (m + n) = twoPow m * twoPow n := Nat.pow_add 2 m n

theorem twoPow_succ (n : Nat) : twoPow (n + 1) = twoPow n + twoPow n := by
  rw [twoPow_add]
  exact Nat.mul_two _

theorem twoPow_le_twoPow {m n : Nat} (h : m ≤ n) : twoPow m ≤ twoPow n :=
  Nat.pow_le_pow_right (by decide) h

theorem twoPow_le_iff {k units : Nat} (h : units ≠ 0) : twoPow k ≤ units ↔ k ≤ units.log2 :=
  (Nat.le_log2 h).symm

/-- A quotient is rounded to itself or to the next integer, to that one from half a step on if it is
even. -/
theorem roundDiv_cases (num den : Nat) :
    roundDiv num den = num / den ∧ 2 * (num % den) ≤ den ∨
      roundDiv num den = num / den + 1 ∧ den ≤ 2 * (num % den) := by
  unfold roundDiv
  dsimp only
  split
  · next h => exact .inl ⟨rfl, Nat.le_of_lt h⟩
  split
  · next h => exact .inr ⟨rfl, Nat.le_of_lt h⟩
  · next h₁ h₂ =>
    have htie : 2 * (num % den) = den := by omega
    rcases Nat.mod_two_eq_zero_or_one (num / den) with hparity | hparity
    · exact .inl ⟨by rw [hparity, Nat.add_zero], Nat.le_of_eq htie⟩
    · exact .inr ⟨by rw [hparity], Nat.le_of_eq htie.symm⟩

theorem div_mul_add_mod (num den : Nat) : num / den * den + num % den = num := by
  rw [Nat.mul_comm]
  exact Nat.div_add_mod num den

theorem le_roundDiv {num den bound : Nat} (hden : 0 < den) (h : bound * den ≤ num) :
    bound ≤ roundDiv num den := by
  have hle : bound ≤ num / den := (Nat.le_div_iff_mul_le hden).2 h
  rcases roundDiv_cases num den with ⟨hround, -⟩ | ⟨hround, -⟩ <;> omega

theorem roundDiv_le {num den bound : Nat} (hden : 0 < den) (h : num ≤ bound * den) :
    roundDiv num den ≤ bound := by
  have hnum := div_mul_add_mod num den
  have hle : num / den ≤ bound := Nat.div_le_of_le_mul (by rwa [Nat.mul_comm])
  rcases Nat.lt_or_ge (num / den) bound with hlt | hge
  · rcases roundDiv_cases num den with ⟨hround, -⟩ | ⟨hround, -⟩ <;> omega
  · -- At the bound nothing is left over to round up.
    have hbound : num / den = bound := by omega
    rw [hbound] at hnum
    rcases roundDiv_cases num den with ⟨hround, -⟩ | ⟨hround, hmod⟩ <;> omega

/-- Rounding adds half a step at most. -/
theorem two_mul_roundDiv_le (num den : Nat) : 2 * (roundDiv num den * den) ≤ 2 * num + den := by
  have hnum := div_mul_add_mod num den
  rcases roundDiv_cases num den with ⟨hround, hmod⟩ | ⟨hround, hmod⟩
  · rw [hround]
    omega
  · rw [hround, Nat.add_mul]
    omega

/-- Under an even bound, quotients are rounded to the bound from half a step before it. -/
theorem roundDiv_lt_iff {num den bound : Nat} (heven : bound % 2 = 0) (hden : 0 < den)
    (h : num < bound * den) : roundDiv num den < bound ↔ 2 * num + den < 2 * (bound * den) := by
  have hnum := div_mul_add_mod num den
  have hmod : num % den < den := Nat.mod_lt _ hden
  have hquotient : num / den < bound := (Nat.div_lt_iff_lt_mul hden).2 h
  rcases Nat.lt_or_ge (num / den + 1) bound with hlt | hge
  · have hmul : (num / den + 2) * den ≤ bound * den := Nat.mul_le_mul_right den hlt
    rw [Nat.add_mul] at hmul
    rcases roundDiv_cases num den with ⟨hround, -⟩ | ⟨hround, -⟩ <;> omega
  · -- The last quotient under the bound is odd, so that a tie goes up.
    have hlast : bound = num / den + 1 := by omega
    subst hlast
    have htie : roundDiv num den < num / den + 1 ↔ 2 * (num % den) < den := by
      unfold roundDiv
      dsimp only
      split
      · omega
      split <;> omega
    rw [htie, Nat.add_mul]
    omega

theorem isFinite_round_iff_units (negative : Bool) (num den : Nat) :
    (round negative num den).isFinite ↔ roundedUnits num den < unitsLimit := by
  rw [round_eq]
  split
  · next h => exact ⟨fun _ => h, fun _ => rfl⟩
  · next h => exact ⟨fun hfinite => absurd hfinite Bool.false_ne_true, fun hlt => absurd hlt h⟩

/-- Whole numbers of units round to infinity from half a step before the first power of two that is
past all finite doubles. -/
theorem isFinite_round_iff (negative : Bool) (units : Nat) :
    (round negative units 1).isFinite ↔ units + twoPow 2044 < unitsLimit := by
  have hlog {k : Nat} (h : k ≤ units.log2) (hk : 0 < k) : twoPow k ≤ units := by
    refine (twoPow_le_iff ?_).2 h
    rintro rfl
    exact absurd h (Nat.not_le_of_lt hk)
  have hhalf : twoPow 2045 = twoPow 2044 + twoPow 2044 := twoPow_succ 2044
  have hlimit : unitsLimit = twoPow 2097 + twoPow 2097 := twoPow_succ 2097
  have hsteps : unitsLimit = twoPow 53 * twoPow 2045 := twoPow_add 53 2045
  have hle : twoPow 2044 ≤ twoPow 2097 := twoPow_le_twoPow (by decide)
  have hpos : 0 < twoPow 2097 := twoPow_pos 2097
  rw [isFinite_round_iff_units, roundedUnits, Nat.div_one, Nat.one_mul]
  generalize hd : droppedBits units = dropped
  have hd : units.log2 + 1 - 53 = dropped := hd
  rcases Nat.lt_or_ge units (twoPow 2097) with hsmall | hlarge
  · -- The step is small, so that the limit is out of reach.
    have hlog : units.log2 < 2097 :=
      Nat.lt_of_not_le fun h => absurd (hlog h (by decide)) (Nat.not_le_of_lt hsmall)
    have hstep : twoPow dropped ≤ twoPow 2044 := twoPow_le_twoPow (by omega)
    have hround := two_mul_roundDiv_le units (twoPow dropped)
    omega
  have hne : units ≠ 0 := by omega
  rcases Nat.lt_or_ge units unitsLimit with hunder | hover
  · have hlow : 2097 ≤ units.log2 := (twoPow_le_iff hne).1 hlarge
    have hhigh : units.log2 < 2098 :=
      Nat.lt_of_not_le fun h => absurd (hlog h (by decide)) (Nat.not_le_of_lt hunder)
    have hdropped : dropped = 2045 := by omega
    subst hdropped
    rw [hsteps] at hunder ⊢
    rw [Nat.mul_lt_mul_right (twoPow_pos 2045),
      roundDiv_lt_iff (by decide) (twoPow_pos 2045) hunder]
    omega
  · -- What is past the limit stays past it.
    have hlow : 2098 ≤ units.log2 := (twoPow_le_iff hne).1 hover
    have hfloor : twoPow 52 * twoPow dropped ≤ units := by
      rw [← twoPow_add]
      exact (twoPow_le_iff hne).2 (by omega)
    have hround := Nat.mul_le_mul_right (twoPow dropped)
      (le_roundDiv (twoPow_pos dropped) hfloor)
    have hmost : unitsLimit ≤ twoPow 52 * twoPow dropped := by
      rw [← twoPow_add]
      exact twoPow_le_twoPow (by omega)
    omega

/-- The integers that round to finite doubles. -/
theorem isFinite_ofInt_iff (n : Int) :
    (ofInt n).isFinite ↔ n.natAbs + twoPow 970 < twoPow 1024 := by
  have hone : unitsPerOne = twoPow 1074 := rfl
  have hhalf : twoPow 2044 = twoPow 970 * twoPow 1074 := twoPow_add 970 1074
  have hlimit : unitsLimit = twoPow 1024 * twoPow 1074 := twoPow_add 1024 1074
  rw [ofInt, isFinite_round_iff, hone, hhalf, hlimit, ← Nat.add_mul,
    Nat.mul_lt_mul_right (twoPow_pos 1074)]

/-- Integers up to `2 ^ 970` are far from too large for a double. -/
theorem isFinite_ofInt_of_natAbs_le {n : Int} (h : n.natAbs ≤ twoPow 970) : (ofInt n).isFinite := by
  have hbound : twoPow 970 + twoPow 970 < twoPow 1024 := by decide +kernel
  rw [isFinite_ofInt_iff]
  omega

/-- A number of the format: a finite one is its own rounding. -/
def IsDouble : Binary64 → Prop
  | finite negative units => round negative units 1 = .finite negative units
  | _ => True

instance (x : Binary64) : Decidable x.IsDouble :=
  match x with
  | finite negative units => inferInstanceAs (Decidable (round negative units 1 = _))
  | infinite _ => .isTrue trivial
  | nan => .isTrue trivial

/-- The integer part of a double is an integer that rounds to a finite double. -/
theorem isFinite_ofInt_of_truncate? {x : Binary64} {n : Int} (hx : x.IsDouble)
    (h : x.truncate? = some n) : (ofInt n).isFinite := by
  cases x with
  | nan => cases h
  | infinite negative => cases h
  | finite negative units =>
    have hround : round negative units 1 = .finite negative units := hx
    have hfinite : (round negative units 1).isFinite := by rw [hround]; rfl
    have hn : n.natAbs = units / unitsPerOne := by
      rw [← Option.some.inj h]
      generalize units / unitsPerOne = whole
      cases negative <;> simp [signedUnits]
    have hone : unitsPerOne = twoPow 1074 := rfl
    have hhalf : twoPow 2044 = twoPow 970 * twoPow 1074 := twoPow_add 970 1074
    have hlimit : unitsLimit = twoPow 1024 * twoPow 1074 := twoPow_add 1024 1074
    rw [isFinite_round_iff, hhalf, hlimit, ← hone] at hfinite
    have hle : units / unitsPerOne * unitsPerOne ≤ units := Nat.div_mul_le_self _ _
    rw [isFinite_ofInt_iff, hn]
    refine Nat.lt_of_mul_lt_mul_right (a := unitsPerOne) ?_
    rw [Nat.add_mul]
    omega

/-! ## Integers that doubles hold -/

section

variable {negative : Bool} {n num den units : Nat}

theorem units_of_round (h : round negative num den = .finite negative units) :
    units = roundedUnits num den := by
  rw [round_eq] at h
  split at h
  · cases h
    rfl
  · cases h

/-- What is left of a fraction after rounding has 53 binary digits, or is the next power of two. -/
theorem roundDiv_step_le (num : Nat) (hden : 0 < den) :
    roundDiv num (den * twoPow (droppedBits (num / den))) ≤ twoPow 53 := by
  have hdropped : droppedBits (num / den) = (num / den).log2 + 1 - 53 := rfl
  refine roundDiv_le (Nat.mul_pos hden (twoPow_pos _)) ?_
  have hquotient : num / den < twoPow (53 + droppedBits (num / den)) := by
    by_cases hzero : num / den = 0
    · rw [hzero]
      exact twoPow_pos _
    · refine Nat.lt_of_not_le fun hle => ?_
      have := (twoPow_le_iff hzero).1 hle
      omega
  rw [Nat.mul_left_comm, ← twoPow_add, Nat.mul_comm]
  exact Nat.le_of_lt ((Nat.div_lt_iff_lt_mul hden).1 hquotient)

/-- Where digits are dropped, 53 of them are kept. -/
theorem le_roundDiv_step (hden : 0 < den) (hdropped : 0 < droppedBits (num / den)) :
    twoPow 52 ≤ roundDiv num (den * twoPow (droppedBits (num / den))) := by
  have hlog : droppedBits (num / den) = (num / den).log2 + 1 - 53 := rfl
  have hne : num / den ≠ 0 := by
    intro hzero
    rw [hzero] at hdropped
    exact absurd hdropped (by decide)
  refine le_roundDiv (Nat.mul_pos hden (twoPow_pos _)) ?_
  rw [Nat.mul_left_comm, ← twoPow_add, Nat.mul_comm]
  exact (Nat.le_div_iff_mul_le hden).1 ((twoPow_le_iff hne).2 (by omega))

/-- Steps of one at most part an integer. -/
theorem exists_steps {dropped : Nat} (h : dropped ≤ 1074) (n : Nat) :
    ∃ count, count * twoPow dropped = n * unitsPerOne := by
  have hone : unitsPerOne = twoPow (1074 - dropped) * twoPow dropped := by
    rw [← twoPow_add, Nat.sub_add_cancel h]
    rfl
  exact ⟨n * twoPow (1074 - dropped), by rw [hone, Nat.mul_assoc]⟩

/-- Longer steps come from `2 ^ 53` on. -/
theorem le_of_long_step (h : ¬ droppedBits units ≤ 1074) :
    twoPow 53 * unitsPerOne ≤ twoPow 52 * twoPow (droppedBits units) ∧
      twoPow 52 * twoPow (droppedBits units) ≤ units := by
  have hone : unitsPerOne = twoPow 1074 := rfl
  have hdropped : droppedBits units = units.log2 + 1 - 53 := rfl
  have hne : units ≠ 0 := by
    rintro rfl
    exact h (by decide)
  rw [hone, ← twoPow_add, ← twoPow_add]
  exact ⟨twoPow_le_twoPow (by omega), (twoPow_le_iff hne).2 (by omega)⟩

/-- A fraction from an integer on is not rounded to less, if doubles hold the integer. -/
theorem le_units_of_round (hround : round negative num den = .finite negative units)
    (hden : 0 < den) (hn : n ≤ twoPow 53) (h : n * unitsPerOne * den ≤ num) :
    n * unitsPerOne ≤ units := by
  rw [units_of_round hround, roundedUnits]
  generalize hd : droppedBits (num / den) = dropped
  have hpos : 0 < den * twoPow dropped := Nat.mul_pos hden (twoPow_pos dropped)
  by_cases hshort : dropped ≤ 1074
  · obtain ⟨count, hcount⟩ := exists_steps hshort n
    rw [← hcount] at h ⊢
    refine Nat.mul_le_mul_right _ (le_roundDiv hpos ?_)
    calc count * (den * twoPow dropped) = count * twoPow dropped * den := by
          rw [Nat.mul_comm den, Nat.mul_assoc]
      _ ≤ num := h
  · -- Steps over one come from the last of these integers on, and the result is past them.
    have hround : twoPow 52 ≤ roundDiv num (den * twoPow dropped) := by
      rw [← hd] at hshort ⊢
      exact le_roundDiv_step hden (by omega)
    rw [← hd] at hshort
    obtain ⟨hlong, -⟩ := le_of_long_step hshort
    rw [hd] at hlong
    calc n * unitsPerOne ≤ twoPow 53 * unitsPerOne := Nat.mul_le_mul_right _ hn
      _ ≤ twoPow 52 * twoPow dropped := hlong
      _ ≤ roundDiv num (den * twoPow dropped) * twoPow dropped := Nat.mul_le_mul_right _ hround

/-- A fraction up to an integer is not rounded to more, if doubles hold the integer. -/
theorem units_le_of_round (hround : round negative num den = .finite negative units)
    (hden : 0 < den) (hn : n < twoPow 53) (h : num ≤ n * unitsPerOne * den) :
    units ≤ n * unitsPerOne := by
  rw [units_of_round hround, roundedUnits]
  have hquotient : num / den ≤ n * unitsPerOne := Nat.div_le_of_le_mul (by rwa [Nat.mul_comm])
  have hshort : droppedBits (num / den) ≤ 1074 := by
    refine Decidable.byContradiction fun hlong => ?_
    obtain ⟨hle, hle'⟩ := le_of_long_step hlong
    have hmul : twoPow 53 * unitsPerOne ≤ n * unitsPerOne :=
      Nat.le_trans hle (Nat.le_trans hle' hquotient)
    exact absurd (Nat.le_of_mul_le_mul_right hmul unitsPerOne_pos) (Nat.not_le_of_lt hn)
  generalize droppedBits (num / den) = dropped at hshort ⊢
  obtain ⟨count, hcount⟩ := exists_steps hshort n
  rw [← hcount] at h ⊢
  refine Nat.mul_le_mul_right _ (roundDiv_le (Nat.mul_pos hden (twoPow_pos dropped)) ?_)
  calc num ≤ count * twoPow dropped * den := h
    _ = count * (den * twoPow dropped) := by rw [Nat.mul_comm den, Nat.mul_assoc]

variable {digits places : Nat}
  (hread : ofDecimal negative digits (-(places : Int)) = .finite negative units)
include hread

/-- A decimal number from an integer on is not read as less, if doubles hold the integer. -/
theorem le_units_of_ofDecimal (hn : n ≤ twoPow 53) (h : n * tenPow places ≤ digits) :
    n * unitsPerOne ≤ units := by
  rcases round_of_ofDecimal hread with hround | ⟨-, hsmall⟩
  · refine le_units_of_round hround (tenPow_pos places) hn ?_
    calc n * unitsPerOne * tenPow places = n * tenPow places * unitsPerOne := by
          rw [Nat.mul_right_comm]
      _ ≤ digits * unitsPerOne := Nat.mul_le_mul_right _ h
  · rcases Nat.eq_zero_or_pos n with rfl | hpos
    · rw [Nat.zero_mul]
      exact Nat.zero_le _
    · have hone : 1 * tenPow places ≤ n * tenPow places := Nat.mul_le_mul_right _ hpos
      omega

/-- A decimal number up to an integer is not read as more, if doubles hold the integer. -/
theorem units_le_of_ofDecimal (hn : n < twoPow 53) (h : digits ≤ n * tenPow places) :
    units ≤ n * unitsPerOne := by
  rcases round_of_ofDecimal hread with hround | ⟨rfl, -⟩
  · refine units_le_of_round hround (tenPow_pos places) hn ?_
    calc digits * unitsPerOne ≤ n * tenPow places * unitsPerOne := Nat.mul_le_mul_right _ h
      _ = n * unitsPerOne * tenPow places := by rw [Nat.mul_right_comm]
  · exact Nat.zero_le _

end

end Reflow.Binary64
