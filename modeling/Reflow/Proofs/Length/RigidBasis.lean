import Reflow.Proofs.Length.Words
import Reflow.Proofs.Text.Occurrence
import Reflow.Proofs.Text.Words

/-!
# Flex shorthands read as rigid

What the pattern for rigid shorthands finds, told by the words of the value. It finds three words in
a row: one that ends in a zero, a zero, and one that starts with a number of pixels. The first need
not be a zero itself, because a word may start after any character that is not of a word: the zero
of `1.0` is read as a growth of zero.

* `EndsInLoneZero`, `IsReadAsRigid`: what is asked of the three words.
* `readRigidBasis?_eq_some_iff`: the texts that the pattern matches.
* `IsFirstRigid`: the leftmost three such words. `rigidBasis?_eq_some_iff`: they are what is read.
-/

namespace Reflow

open Text

namespace Length

variable {s t x v lead rest u b : List Char} {before : Option Char} {number number' : Numeral}
  {ws front front' : List (List Char)} {c : Char}

/-! ## Matches -/

/-- One blank or more. -/
def IsGap (b : List Char) : Prop := b ≠ [] ∧ ∀ c ∈ b, isBlank c

/-- A text that starts with a blank is a gap and the text without the blanks in front. -/
theorem exists_gap (h : s.head?.any isBlank) : ∃ b, IsGap b ∧ s = b ++ trimLeft s := by
  refine ⟨s.takeWhile isBlank, ⟨?_, fun c hc => List.mem_takeWhile_imp hc⟩,
    List.takeWhile_append_dropWhile.symm⟩
  cases s with
  | nil => cases h
  | cons c s =>
    have hc : isBlank c := h
    rw [List.takeWhile_cons_of_pos hc]
    exact List.cons_ne_nil _ _

theorem IsGap.head?_append (h : IsGap b) (s : List Char) : (b ++ s).head?.any isBlank := by
  obtain ⟨c, b, rfl⟩ := List.exists_cons_of_ne_nil h.1
  exact h.2 c List.mem_cons_self

theorem IsGap.head? (h : IsGap b) (s : List Char) : ∀ c ∈ (b ++ s).head?, isBlank c := by
  intro c hc
  have hany := h.head?_append s
  rwa [Option.mem_def.1 hc] at hany

theorem IsGap.trimLeft_append (h : IsGap b) (hs : ∀ c ∈ s.head?, isBlank c = false) :
    trimLeft (b ++ s) = s :=
  dropWhile_run h.2 hs

theorem IsPixelNumber.no_blank (h : IsPixelNumber number u) : ∀ c ∈ u, isBlank c = false := by
  obtain ⟨hwritten, p, x, hp, hx, rfl⟩ := h
  intro c hc
  rw [← Bool.not_eq_true]
  intro hblank
  simp only [List.mem_append, List.mem_cons, List.not_mem_nil, or_false] at hc
  rcases hc with hc | rfl | rfl
  · rcases hwritten.mem_text hc with hdigit | rfl
    · rw [not_isDigit_of_isBlank hblank] at hdigit
      cases hdigit
    · exact absurd hblank (by decide)
  · rcases hp with rfl | rfl <;> exact absurd hblank (by decide)
  · rcases hx with rfl | rfl <;> exact absurd hblank (by decide)

/-- What is read as a rigid basis: two zeros and a number of pixels with gaps between them, where a
word starts and one ends. -/
theorem readRigidBasis?_eq_some_iff :
    readRigidBasis? before s = some (number, rest) ↔
      wordStartsAfter before ∧ wordEndsBefore rest ∧ ∃ b₁ b₂ u, IsGap b₁ ∧ IsGap b₂ ∧
        IsPixelNumber number u ∧ s = '0' :: (b₁ ++ '0' :: (b₂ ++ (u ++ rest))) := by
  constructor
  · intro h
    obtain ⟨hbefore, h⟩ := guard_bind_eq_some_iff.1 h
    obtain ⟨t₁, hgrow, h⟩ := Option.bind_eq_some_iff.1 h
    obtain ⟨hgap₁, h⟩ := guard_bind_eq_some_iff.1 h
    obtain ⟨t₂, hshrink, h⟩ := Option.bind_eq_some_iff.1 h
    obtain ⟨hgap₂, h⟩ := guard_bind_eq_some_iff.1 h
    obtain ⟨⟨number', rest'⟩, hread, h⟩ := Option.bind_eq_some_iff.1 h
    obtain ⟨hend, h⟩ := guard_bind_eq_some_iff.1 h
    cases h
    obtain ⟨u, hu, htrim⟩ := readPixels?_eq_some_iff.1 hread
    obtain ⟨b₁, hb₁, ht₁⟩ := exists_gap hgap₁
    obtain ⟨b₂, hb₂, ht₂⟩ := exists_gap hgap₂
    refine ⟨hbefore, hend, b₁, b₂, u, hb₁, hb₂, hu, ?_⟩
    rw [afterLead?_eq_some_iff.1 hgrow, ht₁, afterLead?_eq_some_iff.1 hshrink, ht₂, htrim]
    rfl
  · rintro ⟨hbefore, hend, b₁, b₂, u, hb₁, hb₂, hu, rfl⟩
    have htrim₁ : trimLeft (b₁ ++ '0' :: (b₂ ++ (u ++ rest))) = '0' :: (b₂ ++ (u ++ rest)) := by
      refine hb₁.trimLeft_append ?_
      rintro _ ⟨⟩
      decide
    have htrim₂ : trimLeft (b₂ ++ (u ++ rest)) = u ++ rest := by
      refine hb₂.trimLeft_append ?_
      obtain ⟨c, v, rfl, -⟩ := hu.isPixelLength.exists_cons
      rintro _ ⟨⟩
      exact hu.no_blank c List.mem_cons_self
    refine guard_bind_eq_some_iff.2 ⟨hbefore, ?_⟩
    refine Option.bind_eq_some_iff.2
      ⟨b₁ ++ '0' :: (b₂ ++ (u ++ rest)), afterLead?_append ['0'] _, ?_⟩
    refine guard_bind_eq_some_iff.2 ⟨hb₁.head?_append _, ?_⟩
    refine Option.bind_eq_some_iff.2 ⟨b₂ ++ (u ++ rest), ?_, ?_⟩
    · rw [htrim₁]
      exact afterLead?_append ['0'] _
    · refine guard_bind_eq_some_iff.2 ⟨hb₂.head?_append _, ?_⟩
      refine Option.bind_eq_some_iff.2 ⟨(number, rest), ?_, guard_bind_eq_some_iff.2 ⟨hend, rfl⟩⟩
      rw [htrim₂]
      exact readPixels?_eq_some_iff.2 ⟨u, hu, rfl⟩

theorem rigidBasis_eq_some_iff {n : Nat} :
    rigidBasis before s = some n ↔ ∃ number rest,
      readRigidBasis? before s = some (number, rest) ∧ s.length - rest.length = n := by
  rw [rigidBasis, patternOf_eq_some_iff]
  constructor
  · rintro ⟨rest, hrest, hn⟩
    obtain ⟨⟨number, _⟩, hread, rfl⟩ := Option.map_eq_some_iff.1 hrest
    exact ⟨number, _, hread, hn⟩
  · rintro ⟨number, rest, hread, hn⟩
    exact ⟨rest, Option.map_eq_some_iff.2 ⟨_, hread, rfl⟩, hn⟩

/-- The text of a match is read as it was in place. -/
theorem readRigidBasis?_alone (h : readRigidBasis? before s = some (number, rest)) :
    ∃ m, s = m ++ rest ∧ readRigidBasis? none m = some (number, []) := by
  obtain ⟨-, -, b₁, b₂, u, hb₁, hb₂, hu, rfl⟩ := readRigidBasis?_eq_some_iff.1 h
  refine ⟨'0' :: (b₁ ++ '0' :: (b₂ ++ u)), by simp, readRigidBasis?_eq_some_iff.2 ?_⟩
  exact ⟨rfl, rfl, b₁, b₂, u, hb₁, hb₂, hu, by simp⟩

/-! ## Words -/

/-- The word ends in a zero that nothing or a character that is not of a word stands in front of. -/
def EndsInLoneZero (grow : List Char) : Prop :=
  ∃ lead, grow = lead ++ ['0'] ∧ wordStartsAfter lead.getLast?

/-- The basis starts with the number and `px` in any case, and a word ends there. -/
def StartsWithPixels (number : Numeral) (basis : List Char) : Prop :=
  ∃ u rest, basis = u ++ rest ∧ IsPixelNumber number u ∧ wordEndsBefore rest

/-- Behind the words in front come three that are read as a rigid shorthand with the number. -/
def IsReadAsRigid (front : List (List Char)) (number : Numeral) (ws : List (List Char)) : Prop :=
  ∃ grow basis back, ws = front ++ grow :: ['0'] :: basis :: back ∧ EndsInLoneZero grow ∧
    StartsWithPixels number basis

/-- The leftmost words that are read as a rigid shorthand have the number. -/
def IsFirstRigid (number : Numeral) (ws : List (List Char)) : Prop :=
  ∃ front, IsReadAsRigid front number ws ∧
    ∀ front' number', IsReadAsRigid front' number' ws → front.length ≤ front'.length

theorem StartsWithPixels.unique (h : StartsWithPixels number b) (h' : StartsWithPixels number' b) :
    number = number' := by
  obtain ⟨u, rest, rfl, hu, -⟩ := h
  obtain ⟨u', rest', hs, hu', -⟩ := h'
  have hread : readPixels? (u ++ rest) = some (number, rest) :=
    readPixels?_eq_some_iff.2 ⟨u, hu, rfl⟩
  rw [readPixels?_eq_some_iff.2 ⟨u', hu', hs⟩] at hread
  exact (Prod.ext_iff.1 (Option.some.inj hread)).1.symm

theorem IsFirstRigid.unique (h : IsFirstRigid number ws) (h' : IsFirstRigid number' ws) :
    number = number' := by
  obtain ⟨front, hread, hfirst⟩ := h
  obtain ⟨front', hread', hfirst'⟩ := h'
  have hlength := Nat.le_antisymm (hfirst _ _ hread') (hfirst' _ _ hread)
  obtain ⟨grow, basis, back, hws, -, hbasis⟩ := hread
  obtain ⟨grow', basis', back', hws', -, hbasis'⟩ := hread'
  obtain ⟨rfl, hrest⟩ := List.append_inj (hws.symm.trans hws') hlength
  cases hrest
  exact hbasis.unique hbasis'

/-- A match of the pattern stands in three words. -/
theorem isReadAsRigid_of_read (hx : ∀ c ∈ x.getLast?, isBlank c)
    (hlead : ∀ c ∈ lead, isBlank c = false)
    (h : readRigidBasis? (x ++ lead).getLast? t = some (number, rest)) :
    IsReadAsRigid (words x) number (words (x ++ lead ++ t)) := by
  obtain ⟨hbefore, hend, b₁, b₂, u, hgap₁, hgap₂, hu, rfl⟩ := readRigidBasis?_eq_some_iff.1 h
  obtain ⟨r, y, rfl, hr, hy⟩ := exists_run_head rest
  have hzero : ∀ c ∈ ['0'], isBlank c = false := List.forall_mem_singleton.2 (by decide)
  have hgrow : IsWordBetween x (lead ++ ['0']) (b₁ ++ (['0'] ++ (b₂ ++ (u ++ r ++ y)))) := by
    refine ⟨by simp, fun c hc => ?_, hx, hgap₁.head? _⟩
    exact (List.mem_append.1 hc).elim (hlead c) (hzero c)
  have hshrink : IsWordBetween b₁ ['0'] (b₂ ++ (u ++ r ++ y)) :=
    .of_blanks hgap₁.2 (by simp) hzero (hgap₂.head? _)
  have hbasis : IsWordBetween b₂ (u ++ r) y := by
    refine .of_blanks hgap₂.2 ?_ (fun c hc => ?_) hy
    · obtain ⟨c, v, rfl, -⟩ := hu.isPixelLength.exists_cons
      exact List.cons_ne_nil _ _
    · exact (List.mem_append.1 hc).elim (hu.no_blank c) (hr c)
  refine ⟨lead ++ ['0'], u ++ r, words y, ?_, ⟨lead, rfl, ?_⟩, u, r, rfl, hu, ?_⟩
  · have hsplit : x ++ lead ++ '0' :: (b₁ ++ '0' :: (b₂ ++ (u ++ (r ++ y)))) =
        x ++ (lead ++ ['0'] ++ (b₁ ++ (['0'] ++ (b₂ ++ (u ++ r ++ y))))) := by simp
    rw [hsplit]
    refine words_eq_append_cons_iff.2 ⟨x, _, rfl, hgrow, rfl, ?_⟩
    rw [words_blanks_word hgap₁.2 hshrink, words_blanks_word hgap₂.2 hbasis]
  · rw [List.getLast?_append] at hbefore
    rwa [wordStartsAfter_or (wordStartsAfter_of_blank hx)] at hbefore
  · exact wordEndsBefore_of_append hend

/-- Three words that are read as a rigid shorthand have a match of the pattern in them. -/
theorem exists_read_of_isReadAsRigid (h : IsReadAsRigid front number (words s)) :
    ∃ x lead t rest, s = x ++ lead ++ t ∧ words x = front ∧ (∀ c ∈ lead, isBlank c = false) ∧
      readRigidBasis? (x ++ lead).getLast? t = some (number, rest) := by
  obtain ⟨grow, basis, back, hws, ⟨lead, rfl, hstart⟩, u, rest, rfl, hu, hend⟩ := h
  obtain ⟨x, y, rfl, hgrow, rfl, hy⟩ := words_eq_append_cons_iff.1 hws
  obtain ⟨b₁, y₁, rfl, hb₁, hshrink, hy₁⟩ := words_eq_cons_iff.1 hy
  obtain ⟨b₂, y₂, rfl, hb₂, hbasis, -⟩ := words_eq_cons_iff.1 hy₁
  have hgap₁ : IsGap b₁ := ⟨hshrink.left_ne_nil hgrow.right, hb₁⟩
  have hgap₂ : IsGap b₂ := ⟨hbasis.left_ne_nil hshrink.right, hb₂⟩
  refine ⟨x, lead, '0' :: (b₁ ++ '0' :: (b₂ ++ (u ++ (rest ++ y₂)))), rest ++ y₂, by simp, rfl, ?_,
    readRigidBasis?_eq_some_iff.2 ⟨?_, ?_, b₁, b₂, u, hgap₁, hgap₂, hu, rfl⟩⟩
  · exact fun c hc => hgrow.no_blank c (List.mem_append_left _ hc)
  · rw [List.getLast?_append, wordStartsAfter_or (wordStartsAfter_of_blank hgrow.left)]
    exact hstart
  · exact wordEndsBefore_append hend (wordStartsAfter_of_blank hbasis.right)

/-! ## The first match -/

/-- The leftmost match is in the first words that are read as rigid: places further left have no
more words in front. -/
theorem isFirstRigid_of_leftmost {a : List Char}
    (hread : readRigidBasis? a.getLast? t = some (number, rest))
    (hleft : ∀ a' t', a ++ t = a' ++ t' → a'.length < a.length → rigidBasis a'.getLast? t' = none) :
    IsFirstRigid number (words (a ++ t)) := by
  obtain ⟨x, lead, rfl, hx, hlead⟩ := exists_run_last a
  refine ⟨words x, isReadAsRigid_of_read hx hlead hread, fun front' number' h' => ?_⟩
  obtain ⟨x', lead', t', rest', hs, rfl, hlead', hread'⟩ := exists_read_of_isReadAsRigid h'
  have hle : (x ++ lead).length ≤ (x' ++ lead').length := by
    by_contra hlt
    have hmatch := rigidBasis_eq_some_iff.2 ⟨number', rest', hread', rfl⟩
    rw [hleft (x' ++ lead') t' hs (Nat.not_le.1 hlt)] at hmatch
    cases hmatch
  rw [List.append_assoc, List.append_assoc] at hs
  refine length_words_le hx hlead' hs ?_
  rw [List.length_append] at hle
  omega

theorem rigidBasis?_of_first? {value : String} {e : Extent}
    (h : rigidBasis.first? value.toList = some e) :
    ∃ number, IsFirstRigid number (words value.toList) ∧
      rigidBasis? value = some number.toBinary64 := by
  obtain ⟨a, t, hs, hplace, hmatch, hleft⟩ := Pattern.first?_eq_some_iff.1 h
  obtain ⟨number, rest, hread, hlength⟩ := rigidBasis_eq_some_iff.1 hmatch
  refine ⟨number, ?_, ?_⟩
  · rw [hs] at hleft ⊢
    exact isFirstRigid_of_leftmost hread hleft
  · obtain ⟨m, rfl, halone⟩ := readRigidBasis?_alone hread
    have hextent : e = ⟨a.length, m.length⟩ := by
      obtain ⟨start, length⟩ := e
      rw [List.length_append] at hlength
      rw [Extent.mk.injEq]
      exact ⟨hplace, by simp only at hlength; omega⟩
    have hcut : e.cut value.toList = m := by rw [hs, hextent, cut_append]
    rw [rigidBasis?, h, Option.bind_eq_bind, Option.bind_some, hcut, halone]
    rfl

theorem rigidBasis?_eq_some_iff {value : String} {pixels : Binary64} :
    rigidBasis? value = some pixels ↔
      ∃ number, IsFirstRigid number (words value.toList) ∧ pixels = number.toBinary64 := by
  constructor
  · intro h
    obtain ⟨e, he, -⟩ := Option.bind_eq_some_iff.1 h
    obtain ⟨number, hnumber, hread⟩ := rigidBasis?_of_first? he
    rw [h] at hread
    exact ⟨number, hnumber, Option.some.inj hread⟩
  · rintro ⟨number, hnumber, rfl⟩
    obtain ⟨front, hfront, -⟩ := id hnumber
    obtain ⟨x, lead, t, rest, hs, -, -, hread⟩ := exists_read_of_isReadAsRigid hfront
    have hne := Pattern.first?_ne_none (rigidBasis_eq_some_iff.2 ⟨number, rest, hread, rfl⟩)
    rw [← hs] at hne
    obtain ⟨e, he⟩ := Option.ne_none_iff_exists'.1 hne
    obtain ⟨number', hnumber', hread'⟩ := rigidBasis?_of_first? he
    rw [hread', hnumber.unique hnumber']

end Length

end Reflow
