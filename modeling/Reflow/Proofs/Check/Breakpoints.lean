import Reflow.Proofs.Check.Failures
import Reflow.Proofs.Length.FirstNumbers

/-!
# Widths over their breakpoints

The breakpoint check reads the condition and the width by different readers. Of a breakpoint with a
point it reads the fraction alone, of a width the integer part. So it finds the widths over a whole
breakpoint, but for those that are over it by less than one, and between others it goes wrong.

* `Rule.HasLengths`, `Rule.exceededBreakpoint_of_lengths`: the numbers that are compared.
* `Check.breakpoints_exact`: when a width is found, and when that is right.
-/

namespace Reflow

open Text Length

namespace Rule

variable {r : Rule} {breakpoint width : Numeral} {value : String} {d : Rat}

/-- The rule stands in a media block whose condition has the breakpoint for its first number of a
kind, and it declares a width whose first pixel length has the number. -/
structure HasLengths (r : Rule) (Is : Numeral → List Char → Prop) (breakpoint width : Numeral)
    (value : String) : Prop where
  condition : ∃ condition, r.mediaCondition? = some condition ∧
    IsFirst Is breakpoint condition.toList
  declared : r.value? "width" = some value
  width : IsFirst IsPixelNumber width value.toList

/-- A rule with pixel lengths is compared, with another breakpoint than the first one if a number
with blanks behind it stands further left. -/
theorem HasLengths.exists_spaced (h : r.HasLengths IsPixelNumber breakpoint width value) :
    ∃ read, r.HasLengths IsSpacedPixelNumber read width value := by
  obtain ⟨⟨condition, hcondition, hbreakpoint⟩, hvalue, hwidth⟩ := h
  obtain ⟨a, u, b, hsplit, hu, -⟩ := hbreakpoint
  obtain ⟨read, hread⟩ := exists_isFirst reads_pixelUnit hu.isSpaced a b
  rw [← hsplit] at hread
  exact ⟨read, ⟨condition, hcondition, hread⟩, hvalue, hwidth⟩

/-- The check compares the last digits of the breakpoint with the integer part of the width. -/
theorem exceededBreakpoint_of_lengths (h : r.HasLengths IsSpacedPixelNumber breakpoint width value)
    (hd : width.toBinary64.toRat? = some d) (hdigits : breakpoint.lastDigits.length ≤ digitLimit) :
    r.exceededBreakpoint = .ok (if (numeral breakpoint.lastDigits : Rat) + 1 ≤ d
      then [r.finding .widthExceedsBreakpoint "width" value] else []) := by
  obtain ⟨⟨condition, hcondition, hbreakpoint⟩, hvalue, hwidth⟩ := h
  obtain ⟨whole, hwhole, hlt⟩ := Numeral.exists_truncate? hd
  have hread : r.breakpoint? = .ok (some (numeral breakpoint.lastDigits)) :=
    breakpoint?_eq_some_iff.2 ⟨condition, hcondition,
      wholePixels?_eq_some_iff.2 ⟨_, wholeDigits?_of_isFirst hbreakpoint, hdigits, rfl⟩⟩
  refine bind_eq_ok_iff.2 ⟨_, hread, ?_⟩
  simp only [hvalue, Option.bind_some, pixels?_of_isFirst hwidth, hwhole, hlt]
  rfl

/-- The comparison fails exactly if those digits are too many to be read. -/
theorem failsWith_iff_of_lengths (h : r.HasLengths IsSpacedPixelNumber breakpoint width value)
    (hd : width.toBinary64.toRat? = some d) {cause : PixelError} :
    r.FailsWith cause ↔ digitLimit < breakpoint.lastDigits.length ∧
      cause = .digits (.unreadable breakpoint.lastDigits.length) := by
  obtain ⟨⟨condition, hcondition, hbreakpoint⟩, hvalue, hwidth⟩ := h
  have hread := wholeDigits?_of_isFirst hbreakpoint
  constructor
  · rintro (⟨hcondition', digits, hdigits, hlimit, rfl⟩ | ⟨_, _, value', -, -, hvalue', hpixels⟩)
    · cases hcondition.symm.trans hcondition'
      cases hread.symm.trans hdigits
      exact ⟨hlimit, rfl⟩
    · cases hvalue.symm.trans hvalue'
      have hinfinite := Option.some.inj ((pixels?_of_isFirst hwidth).symm.trans hpixels)
      rw [hinfinite] at hd
      cases hd
  · rintro ⟨hlimit, rfl⟩
    exact .breakpoint hcondition ⟨_, hread, hlimit, rfl⟩

/-- What the check finds at the rule, nothing if it fails there. -/
def foundOver (r : Rule) : List Finding := r.exceededBreakpoint.toOption.getD []

/-- Other rules have nothing to compare. -/
theorem foundOver_of_no_lengths
    (h : ∀ breakpoint width value, ¬ r.HasLengths IsSpacedPixelNumber breakpoint width value) :
    r.foundOver = [] := by
  unfold foundOver
  cases hover : r.exceededBreakpoint with
  | error cause => rfl
  | ok found =>
    unfold exceededBreakpoint at hover
    dsimp only at hover
    obtain ⟨number, hread, hover⟩ := bind_eq_ok_iff.1 hover
    split at hover
    · next k value pixels hvalue hpixels =>
      obtain ⟨condition, hcondition, hk⟩ := breakpoint?_eq_some_iff.1 hread
      obtain ⟨digits, hdigits, -⟩ := wholePixels?_eq_some_iff.1 hk
      obtain ⟨breakpoint, hbreakpoint, -⟩ := wholeDigits?_eq_some_iff.1 hdigits
      rw [hvalue, Option.bind_some] at hpixels
      obtain ⟨width, hwidth, -⟩ := pixels?_eq_some_iff.1 hpixels
      exact absurd ⟨⟨condition, hcondition, hbreakpoint⟩, hvalue, hwidth⟩
        (h breakpoint width value)
    · cases hover
      rfl

theorem foundOver_of_lengths (h : r.HasLengths IsSpacedPixelNumber breakpoint width value)
    (hd : width.toBinary64.toRat? = some d) (hdigits : breakpoint.lastDigits.length ≤ digitLimit) :
    r.foundOver = if (numeral breakpoint.lastDigits : Rat) + 1 ≤ d
      then [r.finding .widthExceedsBreakpoint "width" value] else [] := by
  rw [foundOver, exceededBreakpoint_of_lengths h hd hdigits]
  rfl

theorem foundOver_ne_nil_iff (h : r.HasLengths IsSpacedPixelNumber breakpoint width value)
    (hd : width.toBinary64.toRat? = some d) (hdigits : breakpoint.lastDigits.length ≤ digitLimit) :
    r.foundOver ≠ [] ↔ (numeral breakpoint.lastDigits : Rat) + 1 ≤ d := by
  rw [foundOver_of_lengths h hd hdigits]
  simp

/-- For whole breakpoints that doubles hold, what is found is right but for widths that are over the
breakpoint and whose doubles are over it by less than one. -/
theorem found_iff_lt (hd : width.toBinary64.toRat? = some d) (hwhole : breakpoint.fraction = [])
    (hbound : breakpoint.value < 2 ^ 53) :
    ((numeral breakpoint.lastDigits + 1 ≤ d ↔ breakpoint.value < width.value) ↔
        width.value ≤ breakpoint.value ∨ breakpoint.value + 1 ≤ d) ∧
      (breakpoint.value + 1 ≤ width.value → breakpoint.value + 1 ≤ d) := by
  rw [Numeral.value_of_whole hwhole] at hbound ⊢
  generalize numeral breakpoint.lastDigits = n at hbound ⊢
  have hn : n < 2 ^ 53 := by exact_mod_cast hbound
  have hnext : (n : Rat) + 1 = (n + 1 : Nat) := by push_cast; rfl
  constructor
  · -- Up to the breakpoint nothing is found; past it, widths are found from the next integer on.
    by_cases hle : width.value ≤ n
    · have hunder := Numeral.double_le_natCast hd hn hle
      have hnot : ¬ (n : Rat) + 1 ≤ d := by grind
      have hnot' : ¬ (n : Rat) < width.value := by grind
      simp [hle, hnot, hnot']
    · have hlt : (n : Rat) < width.value := by grind
      simp [hle, hlt]
  · rw [hnext]
    exact Numeral.natCast_le_double hd hn

end Rule

/-! ## The check -/

variable {s : Settings} {sheet : Stylesheet}

theorem Check.run_breakpoint_of_ok
    (hok : ∀ r ∈ activeRules s sheet, ∀ cause, ¬ r.FailsWith cause) :
    Check.breakpointFixedWidth.run s sheet =
      .ok ((activeRules s sheet).flatMap Rule.foundOver) := by
  have hmapM : (activeRules s sheet).mapM Rule.exceededBreakpoint =
      .ok ((activeRules s sheet).map Rule.foundOver) := by
    refine mapM_eq_ok_map fun r hr => ?_
    obtain ⟨found, hfound⟩ :=
      (exists_eq_ok_iff fun _ => Rule.exceededBreakpoint_eq_error_iff).2 (hok r hr)
    rw [Rule.foundOver, hfound]
    rfl
  rw [run, hmapM, List.flatMap_def]
  rfl

/-- The breakpoint check puts together what it finds at the rules that are not ignored, if it fails
at none of them; else it fails as it does at the first. A rule without a pixel length in its
condition or in its width gives nothing. Else the width is found if the integer part of its double
is over the last digits of the breakpoint that is read, and the check fails if these are too many.
If that is the first pixel length of the condition, and a whole number below `2 ^ 53`, then the
width is found exactly if it is over the breakpoint, but for widths that are over it and whose
doubles are over it by less than one. -/
theorem Check.breakpoints_exact (s : Settings) (sheet : Stylesheet) :
    ((∀ r ∈ activeRules s sheet, ∀ cause, ¬ r.FailsWith cause) →
        Check.breakpointFixedWidth.run s sheet =
          .ok ((activeRules s sheet).flatMap Rule.foundOver)) ∧
      (∀ cause, Check.breakpointFixedWidth.run s sheet = .error cause ↔
        FirstFails Rule.FailsWith (activeRules s sheet) cause) ∧
      ∀ r : Rule,
        ((∀ read width value, ¬ r.HasLengths IsSpacedPixelNumber read width value) →
          r.foundOver = []) ∧
        ∀ breakpoint width value d, r.HasLengths IsPixelNumber breakpoint width value →
          width.toBinary64.toRat? = some d →
          ∃ read, r.HasLengths IsSpacedPixelNumber read width value ∧
            (∀ cause, r.FailsWith cause ↔ digitLimit < read.lastDigits.length ∧
              cause = .digits (.unreadable read.lastDigits.length)) ∧
            (read.lastDigits.length ≤ digitLimit →
              r.foundOver = if (numeral read.lastDigits : Rat) + 1 ≤ d
                then [r.finding .widthExceedsBreakpoint "width" value] else []) ∧
            (r.HasLengths IsSpacedPixelNumber breakpoint width value → breakpoint.fraction = [] →
              breakpoint.value < 2 ^ 53 → breakpoint.lastDigits.length ≤ digitLimit →
              ((r.foundOver ≠ [] ↔ breakpoint.value < width.value) ↔
                  width.value ≤ breakpoint.value ∨ breakpoint.value + 1 ≤ d) ∧
                (breakpoint.value + 1 ≤ width.value → breakpoint.value + 1 ≤ d)) := by
  refine ⟨run_breakpoint_of_ok, fun _ => run_breakpoint_eq_error_iff,
    fun r => ⟨Rule.foundOver_of_no_lengths, ?_⟩⟩
  intro breakpoint width value d hlengths hd
  obtain ⟨read, hread⟩ := hlengths.exists_spaced
  refine ⟨read, hread, fun _ => Rule.failsWith_iff_of_lengths hread hd,
    Rule.foundOver_of_lengths hread hd, fun hfirst hwhole hbound hdigits => ?_⟩
  rw [Rule.foundOver_ne_nil_iff hfirst hd hdigits]
  exact Rule.found_iff_lt hd hwhole hbound

/-! ## Breakpoints and widths with a point -/

/-- The lengths of a condition without digits in front of its number, and of a width that is one. -/
theorem Rule.hasLengths_of_split {r : Rule} {Is : Numeral → List Char → Prop}
    {breakpoint width : Numeral} {condition value : String} {a u b : List Char}
    (hIs : ∀ {number u}, Is number u → IsSpacedPixelNumber number u)
    (hcondition : r.mediaCondition? = some condition) (hvalue : r.value? "width" = some value)
    (hsplit : condition.toList = a ++ (u ++ b)) (ha : ∀ c ∈ a, isDigit c = false)
    (hu : Is breakpoint u) (hwidth : IsPixelNumber width value.toList) :
    r.HasLengths Is breakpoint width value := by
  refine ⟨⟨condition, hcondition, ?_⟩, hvalue, ?_⟩
  · rw [hsplit]
    exact isFirst_of_lead hIs ha hu b
  · have hfirst := isFirst_of_lead IsPixelNumber.isSpaced (a := []) (by simp) hwidth []
    simpa using hfirst

/-- The rule for one width in a block with the condition `(max-width: ..)`. -/
def Rule.withLengths (breakpoint width : String) : Rule :=
  ⟨".a", [("width", width)], some ⟨"media", "(max-width: " ++ breakpoint ++ ")"⟩⟩

theorem Rule.hasLengths_withLengths {Is : Numeral → List Char → Prop} {breakpoint width : Numeral}
    {u value : String} (hIs : ∀ {number u}, Is number u → IsSpacedPixelNumber number u)
    (hu : Is breakpoint u.toList) (hwidth : IsPixelNumber width value.toList) :
    (withLengths u value).HasLengths Is breakpoint width value := by
  have hlead : "(max-width: ".toList.all (!isDigit ·) := by decide
  refine hasLengths_of_split (a := "(max-width: ".toList) (b := [')']) hIs rfl rfl ?_
    (fun c hc => by simpa using List.all_eq_true.1 hlead c hc) hu hwidth
  rw [String.toList_append, String.toList_append, List.append_assoc]
  rfl

/-- A width that is over a whole breakpoint by more than one is found, as it should be. -/
theorem Check.breakpoints_exact_whole :
    let r := Rule.withLengths "768px" "900.5px"
    let breakpoint : Numeral := ⟨['7', '6', '8'], []⟩
    let width : Numeral := ⟨['9', '0', '0'], ['5']⟩
    (r.HasLengths IsPixelNumber breakpoint width "900.5px" ∧ breakpoint.value < 2 ^ 53) ∧
      (r.foundOver ≠ [] ↔ breakpoint.value < width.value) ∧ breakpoint.value < width.value ∧
      Check.breakpointFixedWidth.run .standard ⟨[r]⟩ =
        .ok [r.finding .widthExceedsBreakpoint "width" "900.5px"] := by
  intro r breakpoint width
  have hbreakpoint : IsPixelNumber breakpoint "768px".toList :=
    ⟨Numeral.isWritten_iff.2 (by decide), 'p', 'x', .inl rfl, .inl rfl, by decide⟩
  have hwidth : IsPixelNumber width "900.5px".toList :=
    ⟨Numeral.isWritten_iff.2 (by decide), 'p', 'x', .inl rfl, .inl rfl, by decide⟩
  have hlengths : r.HasLengths IsPixelNumber breakpoint width "900.5px" :=
    Rule.hasLengths_withLengths IsPixelNumber.isSpaced hbreakpoint hwidth
  have hspaced : r.HasLengths IsSpacedPixelNumber breakpoint width "900.5px" :=
    Rule.hasLengths_withLengths id hbreakpoint.isSpaced hwidth
  have hbound : breakpoint.value < 2 ^ 53 := by decide +kernel
  have hlt : breakpoint.value + 1 ≤ width.value := by decide +kernel
  have hlt' : breakpoint.value < width.value := by decide +kernel
  have hrun : Check.breakpointFixedWidth.run .standard ⟨[r]⟩ =
      .ok [r.finding .widthExceedsBreakpoint "width" "900.5px"] := by decide +kernel
  obtain ⟨d, hd⟩ : ∃ d, width.toBinary64.toRat? = some d :=
    Option.isSome_iff_exists.1 (by decide +kernel)
  obtain ⟨-, -, hrules⟩ := breakpoints_exact .standard ⟨[r]⟩
  obtain ⟨read, -, -, -, hexact⟩ := (hrules r).2 breakpoint width _ d hlengths hd
  obtain ⟨hagree, hdouble⟩ := hexact hspaced rfl hbound (by decide)
  exact ⟨⟨hlengths, hbound⟩, hagree.2 (.inr (hdouble hlt)), hlt', hrun⟩

/-- A breakpoint of 767.98 pixels is read as one of 98, and 767.5 pixels are not found to be over
767. -/
theorem Check.breakpoints_misread :
    let narrow := Rule.withLengths "767.98px" "500px"
    let wide := Rule.withLengths "767px" "767.5px"
    (∃ breakpoint width, narrow.HasLengths IsPixelNumber breakpoint width "500px" ∧
        ¬ breakpoint.value < width.value ∧ Check.breakpointFixedWidth.run .standard ⟨[narrow]⟩ =
          .ok [narrow.finding .widthExceedsBreakpoint "width" "500px"]) ∧
      ∃ breakpoint width, wide.HasLengths IsPixelNumber breakpoint width "767.5px" ∧
        breakpoint.value < width.value ∧
          Check.breakpointFixedWidth.run .standard ⟨[wide]⟩ = .ok [] := by
  intro narrow wide
  have hnumber {number : Numeral} {u : List Char}
      (hwritten : number.whole ≠ [] ∧ number.whole.all isDigit ∧ number.fraction.all isDigit)
      (hu : u = number.text ++ ['p', 'x']) : IsPixelNumber number u :=
    ⟨Numeral.isWritten_iff.2 hwritten, 'p', 'x', .inl rfl, .inl rfl, hu⟩
  refine ⟨⟨⟨['7', '6', '7'], ['9', '8']⟩, ⟨['5', '0', '0'], []⟩, ?_, by decide +kernel,
    by decide +kernel⟩, ⟨['7', '6', '7'], []⟩, ⟨['7', '6', '7'], ['5']⟩, ?_, by decide +kernel,
    by decide +kernel⟩
  · exact Rule.hasLengths_withLengths IsPixelNumber.isSpaced (hnumber (by decide) (by decide))
      (hnumber (by decide) (by decide))
  · exact Rule.hasLengths_withLengths IsPixelNumber.isSpaced (hnumber (by decide) (by decide))
      (hnumber (by decide) (by decide))

end Reflow
