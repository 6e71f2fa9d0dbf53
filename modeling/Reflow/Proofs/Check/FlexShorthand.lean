import Reflow.Proofs.Check.Findings
import Reflow.Proofs.Length.RigidBasis

/-!
# Flex shorthands that neither grow nor shrink

The check for fragile flex containers looks for a shorthand like `0 0 200px` in a container that
does not wrap. What it takes for one is told here by the words of the value. Its first word need
only end in a zero that stands for itself, so a growth of `1.0` is taken for zero.

* `Rule.HasRigidShorthand`, `Rule.mem_fragileFlex_iff`: the rules that are found by their shorthand.
* `IsZeroNumber`, `NeitherGrowsNorShrinks`: what such a shorthand should be.
* `Check.rigidShorthands_exact`: what is found, and when that is right.
-/

namespace Reflow

open Text Length

variable {s : Settings} {sheet : Stylesheet} {r : Rule} {f : Finding} {value : String}
  {number : Numeral}

namespace Rule

/-! ## Rules found by their shorthand -/

/-- A flex container that does not wrap, without a fixed basis. The leftmost words of its shorthand
that are read as rigid have the number. -/
structure HasRigidShorthand (r : Rule) (value : String) (number : Numeral) : Prop where
  display : r.Mentions "display" "flex"
  wrap : r.Mentions "flex-wrap" "nowrap"
  basis : ∀ basis, r.value? "flex-basis" = some basis → isFixed basis = false
  shorthand : r.value? "flex" = some value
  first : IsFirstRigid number (words value.toList)

/-- The shorthand counts if there is no fixed basis. -/
theorem fixedBasis?_flex_iff {pixels : Option Binary64} :
    r.fixedBasis? = some ("flex", value, pixels) ↔
      r.fixed? "flex-basis" = none ∧ r.value? "flex" = some value ∧
        ∃ x, rigidBasis? value = some x ∧ pixels = some x := by
  unfold fixedBasis?
  split
  · next basis hbasis => simp [hbasis]
  · next hbasis =>
    rw [and_iff_right hbasis]
    constructor
    · intro h
      obtain ⟨shorthand, hvalue, h⟩ := Option.bind_eq_some_iff.1 h
      obtain ⟨x, hx, h⟩ := Option.bind_eq_some_iff.1 h
      cases h
      exact ⟨hvalue, x, hx, rfl⟩
    · rintro ⟨hvalue, x, hx, rfl⟩
      rw [hvalue, Option.bind_eq_bind, Option.bind_some, hx]
      rfl

/-- The findings about a shorthand are those of rules that have a rigid one. -/
theorem mem_fragileFlex_iff :
    f ∈ r.fragileFlex s ∧ f.kind = .nonWrappingFlexBasis ∧ f.property = some "flex" ↔
      ∃ value number, r.HasRigidShorthand value number ∧
        s.reports .flexBasis (some number.toBinary64) ∧
        f = r.finding .nonWrappingFlexBasis "flex" value := by
  constructor
  · rintro ⟨hf, hkind, hproperty⟩
    unfold fragileFlex at hf
    split at hf
    · cases hf
    · next display hdisplay =>
      rw [List.mem_append, List.mem_append, Option.mem_toList, Option.mem_toList] at hf
      rcases hf with (hf | hf) | hf
      · obtain ⟨wrap, hwrap, hf⟩ := Option.bind_eq_some_iff.1 hf
        obtain ⟨⟨p, value, pixels⟩, hbasis, hf⟩ := Option.bind_eq_some_iff.1 hf
        obtain ⟨hreports, hf⟩ := guard_bind_eq_some_iff.1 hf
        cases hf
        obtain rfl : p = "flex" := Option.some.inj hproperty
        obtain ⟨hfixed, hvalue, x, hx, rfl⟩ := fixedBasis?_flex_iff.1 hbasis
        obtain ⟨number, hfirst, rfl⟩ := rigidBasis?_eq_some_iff.1 hx
        have hflex := isSome_mentioning?_iff.1 (Option.isSome_of_eq_some hdisplay)
        have hnowrap := isSome_mentioning?_iff.1 (Option.isSome_of_eq_some hwrap)
        exact ⟨value, number, ⟨hflex, hnowrap, fixed?_eq_none_iff.1 hfixed, hvalue, hfirst⟩,
          hreports, rfl⟩
      · rw [List.mem_ite_nil_right, List.mem_singleton] at hf
        obtain ⟨-, rfl⟩ := hf
        cases hkind
      · obtain ⟨_, -, hf⟩ := Option.bind_eq_some_iff.1 hf
        obtain ⟨_, -, hf⟩ := Option.bind_eq_some_iff.1 hf
        cases hf
        cases hkind
  · rintro ⟨value, number, h, hreports, rfl⟩
    refine ⟨?_, rfl, rfl⟩
    obtain ⟨display, hdisplay⟩ := Option.isSome_iff_exists.1 (isSome_mentioning?_iff.2 h.display)
    obtain ⟨wrap, hwrap⟩ := Option.isSome_iff_exists.1 (isSome_mentioning?_iff.2 h.wrap)
    have hbasis : r.fixedBasis? = some ("flex", value, some number.toBinary64) :=
      fixedBasis?_flex_iff.2 ⟨fixed?_eq_none_iff.2 h.basis, h.shorthand, number.toBinary64,
        rigidBasis?_eq_some_iff.2 ⟨number, h.first, rfl⟩, rfl⟩
    unfold fragileFlex
    rw [hdisplay]
    refine List.mem_append_left _ (List.mem_append_left _ (Option.mem_toList.2 ?_))
    refine Option.bind_eq_some_iff.2 ⟨wrap, hwrap, Option.bind_eq_some_iff.2 ⟨_, hbasis, ?_⟩⟩
    exact guard_bind_eq_some_iff.2 ⟨hreports, rfl⟩

end Rule

/-! ## Shorthands that neither grow nor shrink -/

/-- Zeros, with one point at most. -/
structure IsZeroMantissa (m : List Char) : Prop where
  zero : '0' ∈ m
  point : m.count '.' ≤ 1
  only : ∀ c ∈ m, c = '0' ∨ c = '.'

/-- The exponent of a number, or nothing. -/
def IsExponent (e : List Char) : Prop :=
  e = [] ∨ ∃ mark sign digits, e = mark :: (sign ++ digits) ∧ mark ∈ ['e', 'E'] ∧
    sign ∈ [[], ['+'], ['-']] ∧ digits ≠ [] ∧ ∀ c ∈ digits, c.isDigit

/-- A number that is zero: a sign or none, zeros with or without a point, an exponent or none. -/
def IsZeroNumber (w : List Char) : Prop :=
  ∃ sign m e, w = sign ++ (m ++ e) ∧ sign ∈ [[], ['+'], ['-']] ∧ IsZeroMantissa m ∧ IsExponent e

/-- Three words in a row are two numbers that are zero, and a word that starts with a number and
`px` in any case. -/
def NeitherGrowsNorShrinks (value : String) : Prop :=
  ∃ front grow shrink basis back, words value.toList = front ++ grow :: shrink :: basis :: back ∧
    IsZeroNumber grow ∧ IsZeroNumber shrink ∧
    ∃ number u rest, basis = u ++ rest ∧ IsPixelNumber number u

theorem isZeroNumber_zero : IsZeroNumber ['0'] :=
  ⟨[], ['0'], [], rfl, by decide, ⟨by decide, by decide, by simp⟩, .inl rfl⟩

/-- A zero starts with a sign, a zero or a point. -/
theorem IsZeroNumber.exists_cons {w : List Char} (h : IsZeroNumber w) :
    ∃ c v, w = c :: v ∧ c ∈ ['+', '-', '0', '.'] := by
  obtain ⟨sign, m, e, rfl, hsign, hm, -⟩ := h
  obtain ⟨c, v, rfl⟩ := List.exists_cons_of_ne_nil (List.ne_nil_of_mem hm.zero)
  simp only [List.mem_cons, List.not_mem_nil, or_false] at hsign
  rcases hsign with rfl | rfl | rfl
  · refine ⟨c, v ++ e, rfl, ?_⟩
    rcases hm.only c List.mem_cons_self with rfl | rfl <;> decide
  · exact ⟨'+', _, rfl, by decide⟩
  · exact ⟨'-', _, rfl, by decide⟩

/-- What is read as rigid is so, if the words that end in a zero are zero. -/
theorem NeitherGrowsNorShrinks.of_isFirstRigid (h : IsFirstRigid number (words value.toList))
    (hzero : ∀ w ∈ words value.toList, EndsInLoneZero w → IsZeroNumber w) :
    NeitherGrowsNorShrinks value := by
  obtain ⟨front, ⟨grow, basis, back, hwords, hgrow, u, rest, hbasis, hu, -⟩, -⟩ := h
  refine ⟨front, grow, ['0'], basis, back, hwords, hzero grow ?_ hgrow, isZeroNumber_zero,
    number, u, rest, hbasis, hu⟩
  rw [hwords]
  simp

/-! ## The check -/

theorem Check.mem_fragile_iff :
    f ∈ overRules s sheet (Rule.fragileFlex s) ∧ f.kind = .nonWrappingFlexBasis ∧
        f.property = some "flex" ↔
      ∃ r ∈ activeRules s sheet, ∃ value number, r.HasRigidShorthand value number ∧
        s.reports .flexBasis (some number.toBinary64) ∧
        f = r.finding .nonWrappingFlexBasis "flex" value := by
  simp only [overRules, List.mem_flatMap, ← Rule.mem_fragileFlex_iff]
  constructor
  · rintro ⟨⟨r, hr, hf⟩, hkind⟩
    exact ⟨r, hr, hf, hkind⟩
  · rintro ⟨r, hr, hf, hkind⟩
    exact ⟨⟨r, hr, hf⟩, hkind⟩

/-- The check for fragile flex containers finds the shorthands of the rules that are not ignored,
that have one read as rigid, and whose number is worth a finding, and no other shorthands. A
shorthand that is found neither grows nor shrinks if all of its words that end in a zero with no
letter, digit or underscore in front of it are zero. -/
theorem Check.rigidShorthands_exact (s : Settings) (sheet : Stylesheet) :
    ∃ found, Check.flexFragility.run s sheet = .ok found ∧
      (∀ f, f ∈ found ∧ f.kind = .nonWrappingFlexBasis ∧ f.property = some "flex" ↔
        ∃ r ∈ activeRules s sheet, ∃ value number, r.HasRigidShorthand value number ∧
          s.reports .flexBasis (some number.toBinary64) ∧
          f = r.finding .nonWrappingFlexBasis "flex" value) ∧
      ∀ f ∈ found, f.kind = .nonWrappingFlexBasis → f.property = some "flex" →
        ∃ value, f.value = some value ∧
          ((∀ w ∈ words value.toList, EndsInLoneZero w → IsZeroNumber w) →
            NeitherGrowsNorShrinks value) := by
  refine ⟨_, rfl, fun f => mem_fragile_iff, fun f hf hkind hproperty => ?_⟩
  obtain ⟨r, -, value, number, hrigid, -, rfl⟩ := mem_fragile_iff.1 ⟨hf, hkind, hproperty⟩
  exact ⟨value, rfl, .of_isFirstRigid hrigid.first⟩

/-- A flex container that does not wrap, with a shorthand. -/
def Rule.unwrapped (shorthand : String) : Rule :=
  ⟨".a", [("display", "flex"), ("flex-wrap", "nowrap"), ("flex", shorthand)], none⟩

/-- A growth of zero with a point is found, and it is one. -/
theorem Check.rigidShorthands_exact_point :
    let r := Rule.unwrapped "0.0 0 240px"
    Check.flexFragility.run .standard ⟨[r]⟩ =
        .ok [r.finding .nonWrappingFlexBasis "flex" "0.0 0 240px"] ∧
      NeitherGrowsNorShrinks "0.0 0 240px" := by
  intro r
  have hrun : Check.flexFragility.run .standard ⟨[r]⟩ =
      .ok [r.finding .nonWrappingFlexBasis "flex" "0.0 0 240px"] := by decide +kernel
  have hwords : words "0.0 0 240px".toList =
      [['0', '.', '0'], ['0'], ['2', '4', '0', 'p', 'x']] := by decide +kernel
  obtain ⟨found, hfound, -, hvalues⟩ := rigidShorthands_exact .standard ⟨[r]⟩
  rw [hrun] at hfound
  cases hfound
  obtain ⟨value, hvalue, hzero⟩ := hvalues _ List.mem_cons_self rfl rfl
  obtain rfl : "0.0 0 240px" = value := Option.some.inj hvalue
  refine ⟨hrun, hzero fun w hw hlone => ?_⟩
  rw [hwords] at hw
  simp only [List.mem_cons, List.not_mem_nil, or_false] at hw
  rcases hw with rfl | rfl | rfl
  · exact ⟨[], ['0', '.', '0'], [], rfl, by decide, ⟨by decide, by decide, by simp⟩, .inl rfl⟩
  · exact isZeroNumber_zero
  · obtain ⟨lead, hlead, -⟩ := hlone
    have hlast := congrArg List.getLast? hlead
    simp at hlast

/-- A growth of 1.0 is found too, because a word may start behind the point. -/
theorem Check.rigidShorthand_misread :
    let r := Rule.unwrapped "1.0 0 9px"
    Stylesheet.parse ".a \x7b display: flex; flex-wrap: nowrap; flex: 1.0 0 9px; \x7d" = ⟨[r]⟩ ∧
      Check.flexFragility.run .standard ⟨[r]⟩ =
        .ok [r.finding .nonWrappingFlexBasis "flex" "1.0 0 9px"] ∧
      ¬ NeitherGrowsNorShrinks "1.0 0 9px" := by
  refine ⟨by decide +kernel, by decide +kernel, ?_⟩
  have hwords : words "1.0 0 9px".toList = [['1', '.', '0'], ['0'], ['9', 'p', 'x']] := by
    decide +kernel
  rintro ⟨front, grow, shrink, basis, back, hsplit, hgrow, -⟩
  rw [hwords] at hsplit
  have hfront : front = [] := by
    have hlength := congrArg List.length hsplit
    simp only [List.length_append, List.length_cons, List.length_nil] at hlength
    exact List.length_eq_zero_iff.1 (by omega)
  subst hfront
  cases hsplit
  obtain ⟨c, v, hcons, hc⟩ := hgrow.exists_cons
  cases hcons
  exact absurd hc (by decide)

end Reflow
