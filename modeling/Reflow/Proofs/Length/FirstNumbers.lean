import Mathlib.Algebra.Order.Field.Rat
import Reflow.Proofs.Binary64
import Reflow.Proofs.Length.Words
import Reflow.Proofs.Text.Pieces

/-!
# The first number of a text

The two readers of first numbers, told by the texts that stand there. `pixels?` reads the first
number that `px` follows directly. `wholeDigits?` comes to the first number that `px` follows with
or without blanks, but reads only its last row of digits: of a number with a point that is the
fraction.

* `Numeral.value`, `Numeral.lastDigits`: the decimal number and its last row of digits.
* `IsFirst`: the number that comes first in a text.
* `pixels?_eq_some_iff`, `wholeDigits?_eq_some_iff`: what the readers give. `allPixels_of_isFirst`:
  the list of all numbers starts with the first.
* `exists_isFirst_of_isFixed`: a fixed value has a first number.
* `Numeral.natCast_le_double`, `Numeral.double_le_natCast`: a number and its double are on the same
  side of each integer below `2 ^ 53`, or on it.
-/

namespace Reflow

open Text

/-! ## Values -/

theorem natCast_le_div_iff {n a b : Nat} (hb : 0 < b) : (n : Rat) ≤ a / b ↔ n * b ≤ a := by
  rw [le_div_iff₀ (Nat.cast_pos.2 hb)]
  exact_mod_cast Iff.rfl

theorem div_le_natCast_iff {n a b : Nat} (hb : 0 < b) : (a : Rat) / b ≤ n ↔ a ≤ n * b := by
  rw [div_le_iff₀ (Nat.cast_pos.2 hb)]
  exact_mod_cast Iff.rfl

/-- The number that a finite double is. -/
def Binary64.toRat? : Binary64 → Option Rat
  | .finite negative units => some (signedUnits negative units / unitsPerOne)
  | _ => none

namespace Numeral

variable {number : Numeral} {d : Rat} {n : Nat}

/-- The decimal number. -/
def value (number : Numeral) : Rat :=
  numeral (number.whole ++ number.fraction) / 10 ^ number.fraction.length

/-- The row of digits in front of the unit. -/
def lastDigits (number : Numeral) : List Char :=
  if number.fraction = [] then number.whole else number.fraction

/-- What stands in front of the last digits: the digits before the point and the point. -/
def lead (number : Numeral) : List Char :=
  if number.fraction = [] then [] else number.whole ++ ['.']

theorem value_of_whole (h : number.fraction = []) : number.value = numeral number.lastDigits := by
  simp [value, lastDigits, h]

theorem value_eq (number : Numeral) :
    number.value = (numeral (number.whole ++ number.fraction) : Rat) /
      (Binary64.tenPow number.fraction.length : Nat) := by
  have hpow : ((Binary64.tenPow number.fraction.length : Nat) : Rat) =
      10 ^ number.fraction.length := Nat.cast_pow 10 _
  rw [hpow, value]

/-- The double of a number as written is finite or past all doubles, and never undefined. -/
theorem toBinary64_cases (number : Numeral) :
    (∃ units, number.toBinary64 = .finite false units) ∨ number.toBinary64 = .infinite false :=
  Binary64.ofDecimal_cases false _ _

theorem toBinary64_ne_nan (number : Numeral) : number.toBinary64 ≠ .nan := by
  rcases number.toBinary64_cases with ⟨units, hunits⟩ | hinfinite
  · simp [hunits]
  · simp [hinfinite]

theorem exists_toBinary64_eq (h : number.toBinary64.toRat? = some d) :
    ∃ units : Nat, number.toBinary64 = .finite false units ∧
      d = (units : Rat) / (Binary64.unitsPerOne : Nat) := by
  rcases number.toBinary64_cases with ⟨units, hunits⟩ | hinfinite
  · refine ⟨units, hunits, ?_⟩
    rw [hunits] at h
    exact (Option.some.inj h).symm
  · rw [hinfinite] at h
    cases h

/-- The double of a number is not under an integer that the number is not under. -/
theorem natCast_le_double (h : number.toBinary64.toRat? = some d) (hn : n ≤ 2 ^ 53)
    (hle : (n : Rat) ≤ number.value) : (n : Rat) ≤ d := by
  obtain ⟨units, hunits, rfl⟩ := exists_toBinary64_eq h
  rw [value_eq, natCast_le_div_iff (Binary64.tenPow_pos _)] at hle
  rw [natCast_le_div_iff Binary64.unitsPerOne_pos]
  exact Binary64.le_units_of_ofDecimal hunits hn hle

/-- The double of a number is not over an integer that the number is not over. -/
theorem double_le_natCast (h : number.toBinary64.toRat? = some d) (hn : n < 2 ^ 53)
    (hle : number.value ≤ n) : d ≤ n := by
  obtain ⟨units, hunits, rfl⟩ := exists_toBinary64_eq h
  rw [value_eq, div_le_natCast_iff (Binary64.tenPow_pos _)] at hle
  rw [div_le_natCast_iff Binary64.unitsPerOne_pos]
  exact Binary64.units_le_of_ofDecimal hunits hn hle

/-- The integer part of the double is over an integer from the next integer on. -/
theorem exists_truncate? (h : number.toBinary64.toRat? = some d) :
    ∃ whole : Int, number.toBinary64.truncate? = some whole ∧
      ∀ n : Nat, (n : Int) < whole ↔ (n : Rat) + 1 ≤ d := by
  obtain ⟨units, hunits, rfl⟩ := exists_toBinary64_eq h
  refine ⟨(units / Binary64.unitsPerOne : Nat), by rw [hunits]; rfl, fun n => ?_⟩
  have hpos := Binary64.unitsPerOne_pos
  have hnext : (n : Rat) + 1 = (n + 1 : Nat) := by push_cast; rfl
  rw [hnext, natCast_le_div_iff hpos, ← Nat.le_div_iff_mul_le hpos, Int.ofNat_lt]
  exact Nat.lt_iff_add_one_le

end Numeral

namespace Length

variable {number : Numeral} {s t rest u a b : List Char} {digits : List Char} {value : String}
  {before : Option Char} {k n : Nat} {pixels : Binary64}

/-! ## Numbers with blanks behind them -/

/-- A number and `px` in any case, blanks between them allowed. -/
def IsSpacedPixelNumber (number : Numeral) (u : List Char) : Prop :=
  number.IsWritten ∧ ∃ blanks p x, (∀ c ∈ blanks, isBlank c) ∧ (p = 'p' ∨ p = 'P') ∧
    (x = 'x' ∨ x = 'X') ∧ u = number.text ++ (blanks ++ [p, x])

theorem isPixelLength_iff : IsPixelLength u ↔ ∃ number, IsSpacedPixelNumber number u := by
  constructor
  · rintro ⟨number, blanks, p, x, hwritten, h⟩
    exact ⟨number, hwritten, blanks, p, x, h⟩
  · rintro ⟨number, hwritten, blanks, p, x, h⟩
    exact ⟨number, blanks, p, x, hwritten, h⟩

theorem IsPixelNumber.isSpaced (h : IsPixelNumber number u) : IsSpacedPixelNumber number u := by
  obtain ⟨hwritten, p, x, hp, hx, rfl⟩ := h
  exact ⟨hwritten, [], p, x, by simp, hp, hx, rfl⟩

/-- Behind the point of a number, its last digits stand as a number of their own. -/
theorem IsSpacedPixelNumber.exists_lastDigits (h : IsSpacedPixelNumber number u) :
    ∃ v, IsSpacedPixelNumber ⟨number.lastDigits, []⟩ v ∧
      u = number.lead ++ v := by
  obtain ⟨⟨hne, hwhole, hfraction⟩, blanks, p, x, hblanks, hp, hx, rfl⟩ := h
  have hdigits : number.lastDigits ≠ [] ∧ ∀ c ∈ number.lastDigits, isDigit c := by
    unfold Numeral.lastDigits
    split
    · exact ⟨hne, hwhole⟩
    · next hf => exact ⟨hf, hfraction⟩
  refine ⟨number.lastDigits ++ (blanks ++ [p, x]),
    ⟨⟨hdigits.1, hdigits.2, by simp⟩, blanks, p, x, hblanks, hp, hx, by simp [Numeral.text]⟩, ?_⟩
  by_cases hf : number.fraction = [] <;> simp [Numeral.lastDigits, Numeral.lead, Numeral.text, hf]

/-- A row of digits, blanks and `px` are a number without a fraction. -/
theorem readWholePixels?_eq_some_iff :
    readWholePixels? s = some (digits, rest) ↔
      ∃ u, IsSpacedPixelNumber ⟨digits, []⟩ u ∧ s = u ++ rest := by
  constructor
  · intro h
    have hread : ((guard (s.head?.any isDigit) : Option Unit).bind fun _ =>
        (afterWord? "px" (trimLeft (s.dropWhile isDigit))).bind fun rest =>
          some (s.takeWhile isDigit, rest)) = some (digits, rest) := h
    obtain ⟨hhead, hread⟩ := guard_bind_eq_some_iff.1 hread
    obtain ⟨rest', hafter, hread⟩ := Option.bind_eq_some_iff.1 hread
    cases hread
    obtain ⟨blanks, p, x, hblanks, hp, hx, hdrop⟩ := afterBlanks_eq_some_iff.1 hafter
    refine ⟨_, ⟨Numeral.isWritten_takeWhile hhead, blanks, p, x, hblanks, hp, hx, rfl⟩, ?_⟩
    have hs : s.takeWhile isDigit ++ s.dropWhile isDigit = s := List.takeWhile_append_dropWhile
    rw [hdrop] at hs
    simpa [Numeral.text] using hs.symm
  · rintro ⟨u, ⟨hwritten, blanks, p, x, hblanks, hp, hx, rfl⟩, rfl⟩
    have htext : Numeral.text ⟨digits, []⟩ ++ (blanks ++ [p, x]) ++ rest =
        digits ++ (blanks ++ p :: x :: rest) := by simp [Numeral.text]
    have hstop : ∀ c ∈ (blanks ++ p :: x :: rest).head?, isDigit c = false :=
      fun c hc => (head?_blanks hblanks hp c hc).1
    have hafter : afterWord? "px" (trimLeft (blanks ++ p :: x :: rest)) = some rest :=
      afterBlanks_eq_some_iff.2 ⟨blanks, p, x, hblanks, hp, hx, rfl⟩
    rw [htext]
    refine guard_bind_eq_some_iff.2
      ⟨hwritten.head?_any _, Option.bind_eq_some_iff.2 ⟨rest, ?_, ?_⟩⟩
    · rw [dropWhile_run hwritten.whole hstop]
      exact hafter
    · rw [takeWhile_run hwritten.whole hstop]
      rfl

/-- A row of digits that goes on with a point is not followed by `px`. -/
theorem readWholePixels?_point (ha : ∀ c ∈ a, isDigit c) (b : List Char) :
    readWholePixels? (a ++ '.' :: b) = none := by
  refine Option.eq_none_iff_forall_ne_some.2 ?_
  rintro ⟨digits, rest⟩ h
  obtain ⟨u, ⟨⟨-, hdigits, -⟩, blanks, p, x, hblanks, hp, -, rfl⟩, hsplit⟩ :=
    readWholePixels?_eq_some_iff.1 h
  have htext : a ++ '.' :: b = digits ++ (blanks ++ p :: x :: rest) := by
    simpa [Numeral.text] using hsplit
  have hpoint : ∀ c ∈ ('.' :: b).head?, isDigit c = false := by
    rintro c ⟨⟩
    exact isDigit_dot
  have hdrop : '.' :: b = blanks ++ p :: x :: rest := by
    rw [← dropWhile_run ha hpoint, htext]
    exact dropWhile_run hdigits fun c hc => (head?_blanks hblanks hp c hc).1
  have hhead : '.' ∈ (blanks ++ p :: x :: rest).head? := by
    rw [← hdrop]
    rfl
  exact (head?_blanks hblanks hp '.' hhead).2 rfl

theorem takeWhile_whole (h : IsSpacedPixelNumber ⟨digits, []⟩ u) : u.takeWhile isDigit = digits := by
  obtain ⟨⟨-, hdigits, -⟩, blanks, p, x, hblanks, hp, -, rfl⟩ := h
  have htext : Numeral.text ⟨digits, []⟩ = digits := by simp [Numeral.text]
  rw [htext]
  exact takeWhile_run hdigits fun c hc => (head?_blanks hblanks hp c hc).1

/-! ## First numbers -/

/-- The number stands in the text, and no number stands further left. A number stands where a piece
of text is one. -/
def IsFirst (Is : Numeral → List Char → Prop) (number : Numeral) (s : List Char) : Prop :=
  ∃ a u b, s = a ++ (u ++ b) ∧ Is number u ∧
    ∀ a' u' b' number', s = a' ++ (u' ++ b') → a'.length < a.length → ¬ Is number' u'

theorem IsSpacedPixelNumber.exists_cons (h : IsSpacedPixelNumber number u) :
    ∃ c v, u = c :: v ∧ isDigit c :=
  (isPixelLength_iff.2 ⟨number, h⟩).exists_cons

/-- Behind a lead without digits a number is the first. -/
theorem isFirst_of_lead {Is : Numeral → List Char → Prop}
    (hIs : ∀ {number u}, Is number u → IsSpacedPixelNumber number u)
    (ha : ∀ c ∈ a, isDigit c = false) (hu : Is number u) (b : List Char) :
    IsFirst Is number (a ++ (u ++ b)) := by
  refine ⟨a, u, b, rfl, hu, fun a' u' b' number' hs hlt hu' => ?_⟩
  obtain ⟨c, v, rfl, hc⟩ := (hIs hu').exists_cons
  obtain ⟨w, rfl⟩ : a' <+: a :=
    List.prefix_of_prefix_length_le ⟨_, hs.symm⟩ (List.prefix_append _ _) (Nat.le_of_lt hlt)
  -- The digit that a number further left starts with would stand in the lead.
  have hmem : c ∈ a' ++ w := by
    cases w with
    | nil => simp at hlt
    | cons d w =>
      have hd : d = c := by simp_all
      simp [hd]
  rw [ha c hmem] at hc
  cases hc

/-- The pattern matches the numbers and nothing else. -/
def Reads (p : Pattern) (Is : Numeral → List Char → Prop) : Prop :=
  ∀ before s n, p before s = some n ↔
    ∃ u rest, s = u ++ rest ∧ u.length = n ∧ ∃ number, Is number u

theorem patternOf_eq_some_iff_of_read {α : Type} {read? : List Char → Option (α × List Char)}
    {Is : α → List Char → Prop}
    (hread : ∀ s x rest, read? s = some (x, rest) ↔ ∃ u, Is x u ∧ s = u ++ rest) :
    patternOf (fun _ s => (read? s).map (·.2)) before s = some n ↔
      ∃ u rest, s = u ++ rest ∧ u.length = n ∧ ∃ x, Is x u := by
  rw [patternOf_eq_some_iff]
  constructor
  · rintro ⟨rest, h, hn⟩
    obtain ⟨⟨x, rest'⟩, hx, rfl⟩ := Option.map_eq_some_iff.1 h
    obtain ⟨u, hu, rfl⟩ := (hread _ _ _).1 hx
    exact ⟨u, rest', rfl, by simpa using hn, x, hu⟩
  · rintro ⟨u, rest, rfl, rfl, x, hu⟩
    refine ⟨rest, Option.map_eq_some_iff.2 ⟨(x, rest), ?_, rfl⟩, by simp⟩
    exact (hread _ _ _).2 ⟨u, hu, rfl⟩

theorem reads_pixelNumber : Reads pixelNumber IsPixelNumber := fun _ _ _ =>
  patternOf_eq_some_iff_of_read fun _ _ _ => readPixels?_eq_some_iff

theorem reads_pixelUnit : Reads pixelUnit IsSpacedPixelNumber := by
  intro before s n
  simp only [pixelUnit_eq_some_iff, isPixelLength_iff]

theorem reads_wholePixelNumber :
    Reads wholePixelNumber fun number u => number.fraction = [] ∧ IsSpacedPixelNumber number u := by
  intro before s n
  have hdigits (u : List Char) : (∃ digits, IsSpacedPixelNumber ⟨digits, []⟩ u) ↔
      ∃ number : Numeral, number.fraction = [] ∧ IsSpacedPixelNumber number u := by
    constructor
    · rintro ⟨digits, hu⟩
      exact ⟨⟨digits, []⟩, rfl, hu⟩
    · rintro ⟨⟨digits, fraction⟩, rfl, hu⟩
      exact ⟨digits, hu⟩
  simp only [← hdigits]
  exact patternOf_eq_some_iff_of_read fun _ _ _ => readWholePixels?_eq_some_iff

section

variable {p : Pattern} {Is : Numeral → List Char → Prop} (hp : Reads p Is)
include hp

/-- The first match of a pattern for numbers is the first number. -/
theorem first?_of_reads (hu : Is number u)
    (hleft : ∀ a' u' b' number', a ++ (u ++ b) = a' ++ (u' ++ b') → a'.length < a.length →
      ¬ Is number' u') :
    p.first? (a ++ (u ++ b)) = some ⟨a.length, u.length⟩ := by
  refine Pattern.first?_eq_some_iff.2
    ⟨a, u ++ b, rfl, rfl, (hp _ _ _).2 ⟨u, b, rfl, rfl, number, hu⟩, fun a' t hs hlt => ?_⟩
  refine Option.eq_none_iff_forall_ne_some.2 fun n hn => ?_
  obtain ⟨u', rest, rfl, -, number', hu'⟩ := (hp _ _ _).1 hn
  exact hleft a' u' rest number' hs hlt hu'

theorem exists_isFirst_of_first? {e : Extent} (h : p.first? s = some e) :
    ∃ number, IsFirst Is number s := by
  obtain ⟨a, t, hs, -, hmatch, hleft⟩ := Pattern.first?_eq_some_iff.1 h
  obtain ⟨u, b, rfl, -, number, hu⟩ := (hp _ _ _).1 hmatch
  refine ⟨number, a, u, b, hs, hu, fun a' u' b' number' hs' hlt hu' => ?_⟩
  have hnone := hleft a' (u' ++ b') hs' hlt
  rw [(hp _ _ _).2 ⟨u', b', rfl, rfl, number', hu'⟩] at hnone
  cases hnone

/-- Where numbers stand, one of them is the first. -/
theorem exists_isFirst (hu : Is number u) (a b : List Char) :
    ∃ first, IsFirst Is first (a ++ (u ++ b)) := by
  have hne : p.first? (a ++ (u ++ b)) ≠ none :=
    Pattern.first?_ne_none ((hp _ _ _).2 ⟨u, b, rfl, rfl, number, hu⟩)
  obtain ⟨e, he⟩ := Option.ne_none_iff_exists'.1 hne
  exact exists_isFirst_of_first? hp he

end

/-! ## What is read -/

theorem pixels?_of_isFirst (h : IsFirst IsPixelNumber number value.toList) :
    pixels? value = some number.toBinary64 := by
  obtain ⟨a, u, b, hs, hu, hleft⟩ := h
  rw [hs] at hleft
  obtain ⟨t, hread, -⟩ := read?_pixelNumber hu []
  rw [List.append_nil] at hread
  rw [pixels?, hs, first?_of_reads reads_pixelNumber hu hleft]
  refine Option.bind_eq_some_iff.2 ⟨_, rfl, ?_⟩
  rw [cut_append, hread]
  rfl

/-- What is read is the first number that `px` follows directly. -/
theorem pixels?_eq_some_iff :
    pixels? value = some pixels ↔
      ∃ number, IsFirst IsPixelNumber number value.toList ∧ number.toBinary64 = pixels := by
  constructor
  · intro h
    obtain ⟨e, he, -⟩ := Option.bind_eq_some_iff.1 h
    obtain ⟨number, hnumber⟩ := exists_isFirst_of_first? reads_pixelNumber he
    exact ⟨number, hnumber, Option.some.inj ((pixels?_of_isFirst hnumber).symm.trans h)⟩
  · rintro ⟨number, hnumber, rfl⟩
    exact pixels?_of_isFirst hnumber

/-- The first number that `px` follows directly heads the list of all of them. -/
theorem allPixels_of_isFirst (h : IsFirst IsPixelNumber number value.toList) :
    ∃ rest, allPixels value = number.toBinary64 :: rest := by
  obtain ⟨a, u, b, hs, hu, hleft⟩ := h
  have hcut : Extent.cut ⟨a.length, u.length⟩ value.toList = u := by rw [hs, cut_append]
  have hne : u ≠ [] := List.ne_nil_of_length_pos hu.isPixelLength.length_pos
  rw [hs] at hleft
  have hfirst := first?_of_reads reads_pixelNumber hu hleft
  rw [← hs] at hfirst
  obtain ⟨hits, hhits⟩ := Pattern.exists_hits_eq_cons hfirst (by rwa [hcut])
  obtain ⟨t, hread, -⟩ := read?_pixelNumber hu []
  rw [List.append_nil] at hread
  refine ⟨hits.filterMap fun text => (Numeral.read? text).map (·.1.toBinary64), ?_⟩
  rw [allPixels, hhits, hcut]
  exact List.filterMap_cons_some (congrArg (Option.map _) hread)

/-- A fixed value has a number that `px` follows directly: the digits of its whole number of pixels
do. They need not be the first number, or all of its digits. -/
theorem exists_isFirst_of_isFixed (h : isFixed value) :
    ∃ number, IsFirst IsPixelNumber number value.toList := by
  obtain ⟨e, he⟩ := Option.isSome_iff_exists.1 h
  obtain ⟨a, t, hs, -, hmatch, -⟩ := Pattern.first?_eq_some_iff.1 he
  obtain ⟨-, digits, u, b, rfl, -, hu, -⟩ := fixedPixels_eq_some_iff.1 hmatch
  rw [hs]
  exact exists_isFirst reads_pixelNumber hu a b

/-- In front of its last digits, a number has a row of digits that goes on with a point. -/
theorem not_isSpaced_of_lead (hnumber : number.IsWritten) (h : number.lead ++ t = a ++ (u ++ b))
    (hlt : a.length < number.lead.length) : ¬ IsSpacedPixelNumber ⟨digits, []⟩ u := by
  intro hu
  by_cases hf : number.fraction = []
  · simp [Numeral.lead, hf] at hlt
  rw [Numeral.lead, if_neg hf] at h hlt
  obtain ⟨w, hw⟩ : a <+: number.whole := by
    refine List.prefix_of_prefix_length_le ⟨u ++ b, h.symm⟩ ⟨'.' :: t, by simp⟩ ?_
    simpa [Nat.lt_succ_iff] using hlt
  have htail : u ++ b = w ++ '.' :: t := by
    rw [← hw] at h
    simpa using h.symm
  have hw : ∀ c ∈ w, isDigit c := fun c hc => hnumber.whole c (hw ▸ List.mem_append_right a hc)
  have hread : readWholePixels? (u ++ b) = some (digits, b) :=
    readWholePixels?_eq_some_iff.2 ⟨u, hu, rfl⟩
  rw [htail, readWholePixels?_point hw] at hread
  cases hread

/-- Of the first number, the last digits are the first row of digits that `px` follows. -/
theorem first?_wholePixelNumber {v : List Char} (hu : IsSpacedPixelNumber number u)
    (hleft : ∀ a' u' b' number', a ++ (u ++ b) = a' ++ (u' ++ b') → a'.length < a.length →
      ¬ IsSpacedPixelNumber number' u')
    (hv : IsSpacedPixelNumber ⟨number.lastDigits, []⟩ v) (hsplit : u = number.lead ++ v) :
    wholePixelNumber.first? (a ++ (u ++ b)) = some ⟨(a ++ number.lead).length, v.length⟩ := by
  have htext : a ++ (u ++ b) = (a ++ number.lead) ++ (v ++ b) := by simp [hsplit]
  rw [htext] at hleft ⊢
  refine first?_of_reads reads_wholePixelNumber ⟨rfl, hv⟩ ?_
  rintro a' u' b' ⟨digits, fraction⟩ hs hlt ⟨rfl, hu'⟩
  -- Further left there is no number at all, and what starts in the lead ends at the point.
  by_cases hlt' : a'.length < a.length
  · exact hleft a' u' b' _ hs hlt' hu'
  · obtain ⟨w, rfl⟩ : a <+: a' :=
      List.prefix_of_prefix_length_le ⟨_, (List.append_assoc _ _ _).symm⟩ ⟨_, hs.symm⟩
        (Nat.le_of_not_lt hlt')
    have hlead : number.lead ++ (v ++ b) = w ++ (u' ++ b') := by simpa using hs
    exact not_isSpaced_of_lead hu.1 hlead (by simpa using hlt) hu'

/-- The digits that are read are the last of the first number that `px` follows with or without
blanks. -/
theorem wholeDigits?_of_isFirst (h : IsFirst IsSpacedPixelNumber number value.toList) :
    wholeDigits? value = some number.lastDigits := by
  obtain ⟨a, u, b, hs, hu, hleft⟩ := h
  rw [hs] at hleft
  obtain ⟨v, hv, hsplit⟩ := hu.exists_lastDigits
  have htext : a ++ (u ++ b) = (a ++ number.lead) ++ (v ++ b) := by simp [hsplit]
  rw [wholeDigits?, hs, first?_wholePixelNumber hu hleft hv hsplit]
  refine Option.bind_eq_some_iff.2 ⟨_, rfl, ?_⟩
  rw [htext, cut_append, takeWhile_whole hv]
  rfl

theorem wholeDigits?_eq_some_iff :
    wholeDigits? value = some digits ↔
      ∃ number, IsFirst IsSpacedPixelNumber number value.toList ∧ number.lastDigits = digits := by
  constructor
  · intro h
    obtain ⟨e, he, -⟩ := Option.bind_eq_some_iff.1 h
    obtain ⟨whole, a, u, b, hs, ⟨-, hu⟩, -⟩ := exists_isFirst_of_first? reads_wholePixelNumber he
    -- What is matched may be the end of the first number, so that one is looked for by itself.
    obtain ⟨number, hnumber⟩ := exists_isFirst reads_pixelUnit hu a b
    rw [← hs] at hnumber
    exact ⟨number, hnumber, Option.some.inj ((wholeDigits?_of_isFirst hnumber).symm.trans h)⟩
  · rintro ⟨number, hnumber, rfl⟩
    exact wholeDigits?_of_isFirst hnumber

end Length

end Reflow
