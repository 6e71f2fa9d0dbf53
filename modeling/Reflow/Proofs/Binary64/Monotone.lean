import Reflow.Proofs.Binary64

/-!
# Rounding keeps the order

A greater number is not rounded to less, so every step of a computation with one operand fixed keeps
the order, and the whole computation does. Numbers that are too great are rounded to infinity, which
is over all of them.

* `UnsignedLe`: the order of numbers without a sign, infinity included.
* `round_mono`: greater fractions of a denominator are rounded to greater doubles.
* `ofDecimal_mono`, `mul_mono`, `div_mono`: reading whole numbers, and products
  and quotients with a fixed double.
-/

namespace Reflow.Binary64

/-- The order of numbers without a sign. -/
inductive UnsignedLe : Binary64 → Binary64 → Prop where
  | finite {m n : Nat} (h : m ≤ n) : UnsignedLe (.finite false m) (.finite false n)
  | past (m : Nat) : UnsignedLe (.finite false m) (.infinite false)
  | infinite : UnsignedLe (.infinite false) (.infinite false)

variable {x y : Binary64} {m n num num' den units : Nat}

/-! ## Rounding -/

theorem roundDiv_mono (den : Nat) (h : num ≤ num') : roundDiv num den ≤ roundDiv num' den := by
  rcases Nat.eq_or_lt_of_le h with rfl | hlt
  · exact Nat.le_refl _
  have hquotient : num / den ≤ num' / den := Nat.div_le_div_right h
  have hnum := div_mul_add_mod num den
  have hnum' := div_mul_add_mod num' den
  rcases Nat.eq_or_lt_of_le hquotient with heq | hless
  · -- With the quotients the same, the greater remainder is rounded up if the less one is.
    rw [heq] at hnum
    rcases roundDiv_cases num den with ⟨hround, -⟩ | ⟨hround, hup⟩ <;>
      rcases roundDiv_cases num' den with ⟨hround', hdown⟩ | ⟨hround', -⟩ <;> omega
  · rcases roundDiv_cases num den with ⟨hround, -⟩ | ⟨hround, -⟩ <;>
      rcases roundDiv_cases num' den with ⟨hround', -⟩ | ⟨hround', -⟩ <;> omega

theorem droppedBits_mono (h : m ≤ n) : droppedBits m ≤ droppedBits n := by
  have hm : droppedBits m = m.log2 + 1 - 53 := rfl
  have hn : droppedBits n = n.log2 + 1 - 53 := rfl
  by_cases hzero : m = 0
  · rw [hzero]
    exact Nat.zero_le _
  · have hlog : m.log2 ≤ n.log2 :=
      (twoPow_le_iff (by omega)).1 (Nat.le_trans ((twoPow_le_iff hzero).2 (Nat.le_refl _)) h)
    omega

theorem roundedUnits_mono (hden : 0 < den) (h : num ≤ num') :
    roundedUnits num den ≤ roundedUnits num' den := by
  have hdropped := droppedBits_mono (Nat.div_le_div_right (c := den) h)
  unfold roundedUnits
  rcases Nat.eq_or_lt_of_le hdropped with heq | hless
  · rw [heq]
    exact Nat.mul_le_mul_right _ (roundDiv_mono _ h)
  · -- A longer step begins where the shorter one ends.
    generalize hstep : droppedBits (num / den) = step at *
    generalize hstep' : droppedBits (num' / den) = step' at *
    have hbelow : roundDiv num (den * twoPow step) ≤ twoPow 53 := by
      rw [← hstep]
      exact roundDiv_step_le num hden
    have habove : twoPow 52 ≤ roundDiv num' (den * twoPow step') := by
      rw [← hstep']
      exact le_roundDiv_step hden (by omega)
    calc roundDiv num (den * twoPow step) * twoPow step ≤ twoPow 53 * twoPow step :=
          Nat.mul_le_mul_right _ hbelow
      _ = twoPow (53 + step) := (twoPow_add 53 step).symm
      _ ≤ twoPow (52 + step') := twoPow_le_twoPow (by omega)
      _ = twoPow 52 * twoPow step' := twoPow_add 52 step'
      _ ≤ roundDiv num' (den * twoPow step') * twoPow step' := Nat.mul_le_mul_right _ habove

theorem round_mono (hden : 0 < den) (h : num ≤ num') :
    UnsignedLe (round false num den) (round false num' den) := by
  have hunits := roundedUnits_mono hden h
  rw [round_eq, round_eq]
  by_cases hlimit' : roundedUnits num' den < unitsLimit
  · rw [if_pos hlimit', if_pos (Nat.lt_of_le_of_lt hunits hlimit')]
    exact .finite hunits
  · rw [if_neg hlimit']
    split
    · exact .past _
    · exact .infinite

theorem round_le_infinite (num den : Nat) :
    UnsignedLe (round false num den) (.infinite false) := by
  rcases round_cases false num den with ⟨units, hunits⟩ | hinfinite
  · rw [hunits]
    exact .past units
  · rw [hinfinite]
    exact .infinite

/-! ## Whole numbers -/

/-- Reading a whole number: from `10 ^ 310` on it is infinite. -/
theorem ofDecimal_whole (n : Nat) : ofDecimal false n 0 =
    if tenPow 310 ≤ n then .infinite false else round false (n * unitsPerOne) 1 := by
  have hlength {k : Nat} (hk : 0 < k) : (Nat.toDigits 10 n).length ≤ k ↔ n < tenPow k :=
    Nat.length_toDigits_le_iff (by decide) hk
  have hplaces := hlength (show 0 < 310 by decide)
  have hone : tenPow (0 : Int).toNat = 1 := rfl
  unfold ofDecimal
  dsimp only
  by_cases hzero : n = 0
  · subst hzero
    have hround : round false 0 1 = .finite false 0 := by decide +kernel
    rw [if_pos rfl, if_neg (Nat.not_le.2 (tenPow_pos 310)), Nat.zero_mul, hround]
  rw [if_neg hzero, hone, Nat.mul_one]
  by_cases hlarge : tenPow 310 ≤ n
  · rw [if_pos hlarge, if_pos (by omega)]
  · rw [if_neg hlarge, if_neg (by omega), if_neg (by omega), if_pos (by omega)]

/-- A whole number that is not infinite is read as the double nearest to it. -/
theorem ofDecimal_eq_ofNat (h : n < tenPow 310) : ofDecimal false n 0 = ofNat n := by
  rw [ofDecimal_whole, if_neg (Nat.not_le.2 h)]
  rfl

theorem ofDecimal_mono (h : m ≤ n) :
    UnsignedLe (ofDecimal false m 0) (ofDecimal false n 0) := by
  rw [ofDecimal_whole, ofDecimal_whole]
  by_cases hn : tenPow 310 ≤ n
  · rw [if_pos hn]
    split
    · exact .infinite
    · exact round_le_infinite _ _
  · rw [if_neg hn, if_neg (by omega)]
    exact round_mono Nat.one_pos (Nat.mul_le_mul_right _ h)

/-! ## Products and quotients -/

/-- A finite number over zero. -/
inductive IsPositive : Binary64 → Prop where
  | intro {units : Nat} (h : 0 < units) : IsPositive (.finite false units)

instance (x : Binary64) : Decidable x.IsPositive :=
  match x with
  | .finite false units => if h : 0 < units then .isTrue ⟨h⟩ else .isFalse fun ⟨h'⟩ => h h'
  | .finite true _ => .isFalse nofun
  | .infinite _ => .isFalse nofun
  | .nan => .isFalse nofun

theorem mul_mono {z : Binary64} (hz : z.IsPositive) (h : UnsignedLe x y) :
    UnsignedLe (x.mul z) (y.mul z) := by
  obtain @⟨units, hunits⟩ := hz
  have hfinite (m : Nat) : (finite false m).mul (.finite false units) =
      round false (m * units) unitsPerOne := rfl
  have hinfinite : (infinite false).mul (.finite false units) = .infinite false :=
    if_neg (Nat.ne_of_gt hunits)
  cases h with
  | finite h =>
    rw [hfinite, hfinite]
    exact round_mono unitsPerOne_pos (Nat.mul_le_mul_right units h)
  | past m =>
    rw [hfinite, hinfinite]
    exact round_le_infinite _ _
  | infinite =>
    rw [hinfinite]
    exact .infinite

theorem div_mono {z : Binary64} (hz : z.IsPositive) (h : UnsignedLe x y) :
    UnsignedLe (x.div z) (y.div z) := by
  obtain @⟨units, hunits⟩ := hz
  have hfinite (m : Nat) : (finite false m).div (.finite false units) =
      round false (m * unitsPerOne) units := if_neg (Nat.ne_of_gt hunits)
  cases h with
  | finite h =>
    rw [hfinite, hfinite]
    exact round_mono hunits (Nat.mul_le_mul_right _ h)
  | past m =>
    rw [hfinite]
    exact round_le_infinite _ _
  | infinite => exact .infinite

end Reflow.Binary64
