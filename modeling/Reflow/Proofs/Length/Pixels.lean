import Reflow.Length
import Reflow.Proofs.Lists
import Reflow.Proofs.Text.Characters
import Reflow.Proofs.Text.Matching

/-!
# Pixel lengths

What the patterns for pixels match, said by the texts they match and not by how these are read.

* `Numeral.read?_text`, `Numeral.text_of_read?`: a number as written is read back, and what is read
  is a number as written.
* `IsPixelLength`: a number, blanks, and `px` in any case.
* `pixelUnit_eq_some_iff`, `pixelWord_eq_some_iff`: the two patterns for places in a text match
  pixel lengths and nothing else. `fixedPixels_eq_some_iff`: the pattern for fixed values.
* `exists_pixelWord_of_isFixed`: a fixed value has a pixel length that is a word of its own.
-/

namespace Reflow

open Text

variable {s rest u : List Char} {before : Option Char} {n : Nat}

/-! ## Numbers -/

namespace Numeral

variable {number : Numeral}

/-- The number as written. -/
def text (number : Numeral) : List Char :=
  number.whole ++ if number.fraction = [] then [] else '.' :: number.fraction

/-- A number whose parts are digits, with one digit at least in front of the point. -/
structure IsWritten (number : Numeral) : Prop where
  whole_ne : number.whole ≠ []
  whole : ∀ c ∈ number.whole, isDigit c
  fraction : ∀ c ∈ number.fraction, isDigit c

theorem isWritten_iff : number.IsWritten ↔
    number.whole ≠ [] ∧ number.whole.all isDigit ∧ number.fraction.all isDigit := by
  rw [List.all_eq_true, List.all_eq_true]
  exact ⟨fun h => ⟨h.1, h.2, h.3⟩, fun h => ⟨h.1, h.2.1, h.2.2⟩⟩

/-- A number is written with digits and a point. -/
theorem IsWritten.mem_text {c : Char} (h : number.IsWritten) (hc : c ∈ number.text) :
    isDigit c ∨ c = '.' := by
  rw [text, List.mem_append] at hc
  rcases hc with hc | hc
  · exact .inl (h.whole c hc)
  · split at hc
    · cases hc
    · rcases List.mem_cons.1 hc with rfl | hc
      · exact .inr rfl
      · exact .inl (h.fraction c hc)

/-- A row of digits at the front of a text is a whole number as written. -/
theorem isWritten_takeWhile (h : s.head?.any isDigit) : IsWritten ⟨s.takeWhile isDigit, []⟩ := by
  refine ⟨?_, fun c hc => List.mem_takeWhile_imp hc, by simp⟩
  cases s with
  | nil => cases h
  | cons c s =>
    have hc : isDigit c := h
    simp [hc]

theorem IsWritten.head?_any (h : number.IsWritten) (rest : List Char) :
    (number.whole ++ rest).head?.any isDigit := by
  obtain ⟨c, whole, hwhole⟩ := List.exists_cons_of_ne_nil h.whole_ne
  rw [hwhole]
  exact h.whole c (hwhole ▸ List.mem_cons_self)

/-- What is read is a number as written. -/
theorem text_of_read? (h : read? s = some (number, rest)) :
    number.IsWritten ∧ s = number.text ++ rest := by
  have hdigits (t : List Char) : ∀ c ∈ t.takeWhile isDigit, isDigit c :=
    fun c hc => List.mem_takeWhile_imp hc
  unfold read? at h
  dsimp only at h
  split at h
  · cases h
  · next hwhole =>
    have hwhole : s.takeWhile isDigit ≠ [] := by simpa using hwhole
    have hs : s.takeWhile isDigit ++ s.dropWhile isDigit = s := List.takeWhile_append_dropWhile
    split at h
    · next tail htail =>
      split at h
      · cases h
        exact ⟨⟨hwhole, hdigits s, by simp⟩, by simp [text, hs]⟩
      · next hfraction =>
        cases h
        have hfraction : tail.takeWhile isDigit ≠ [] := by simpa using hfraction
        refine ⟨⟨hwhole, hdigits s, hdigits tail⟩, ?_⟩
        rw [text, if_neg hfraction, List.append_assoc, List.cons_append,
          List.takeWhile_append_dropWhile, ← htail, hs]
    · cases h
      exact ⟨⟨hwhole, hdigits s, by simp⟩, by simp [text, hs]⟩

/-- A number as written is read back in front of a text that does not go on with a digit or a
point. -/
theorem read?_text (hn : number.IsWritten) (hrest : ∀ c ∈ rest.head?, isDigit c = false ∧ c ≠ '.') :
    read? (number.text ++ rest) = some (number, rest) := by
  obtain ⟨whole, fraction⟩ := number
  have hne : whole ≠ [] := hn.whole_ne
  have hstop : ∀ c ∈ rest.head?, isDigit c = false := fun c hc => (hrest c hc).1
  by_cases hf : fraction = []
  · subst hf
    unfold text read?
    simp only [if_pos, List.append_nil, takeWhile_run hn.whole hstop, dropWhile_run hn.whole hstop]
    rw [if_neg (by simpa using hne)]
    split
    · next tail => exact absurd rfl (hrest '.' rfl).2
    · rfl
  · have hpoint : ∀ c ∈ ('.' :: (fraction ++ rest)).head?, isDigit c = false := by
      rintro c ⟨⟩
      exact isDigit_dot
    unfold text read?
    simp only [if_neg hf, List.append_assoc, List.cons_append, takeWhile_run hn.whole hpoint,
      dropWhile_run hn.whole hpoint, takeWhile_run hn.fraction hstop,
      dropWhile_run hn.fraction hstop]
    rw [if_neg (by simpa using hne), if_neg (by simpa using hf)]

end Numeral

namespace Length

/-! ## Pixel lengths -/

/-- A number, blanks, and `px` in any case. -/
def IsPixelLength (u : List Char) : Prop :=
  ∃ number : Numeral, ∃ blanks p x, number.IsWritten ∧ (∀ c ∈ blanks, isBlank c) ∧
    (p = 'p' ∨ p = 'P') ∧ (x = 'x' ∨ x = 'X') ∧ u = number.text ++ (blanks ++ [p, x])

theorem IsPixelLength.length_pos (h : IsPixelLength u) : 0 < u.length := by
  obtain ⟨number, blanks, p, x, -, -, -, -, rfl⟩ := h
  simp only [List.length_append, List.length_cons]
  omega

theorem afterWord?_px_eq_some_iff :
    afterWord? "px" s = some rest ↔
      ∃ p x, (p = 'p' ∨ p = 'P') ∧ (x = 'x' ∨ x = 'X') ∧ s = p :: x :: rest := by
  have hword : "px".toList = ['p', 'x'] := rfl
  rw [afterWord?, hword]
  match s with
  | [] => simp [afterLeadCaseless?]
  | [c] => simp [afterLeadCaseless?]
  | c :: d :: s =>
    simp only [afterLeadCaseless?, Option.ite_none_right_eq_some, sameLetter_p_iff,
      sameLetter_x_iff, Option.some.injEq, List.cons.injEq]
    constructor
    · rintro ⟨hp, hx, rfl⟩
      exact ⟨c, d, hp, hx, rfl, rfl, rfl⟩
    · rintro ⟨p, x, hp, hx, rfl, rfl, rfl⟩
      exact ⟨hp, hx, rfl⟩

theorem patternOf_eq_some_iff {after? : Option Char → List Char → Option (List Char)} :
    patternOf after? before s = some n ↔
      ∃ rest, after? before s = some rest ∧ s.length - rest.length = n :=
  Option.map_eq_some_iff

/-- What is read behind a number is blanks and `px`. -/
theorem afterBlanks_eq_some_iff :
    afterWord? "px" (trimLeft s) = some rest ↔
      ∃ blanks p x, (∀ c ∈ blanks, isBlank c) ∧ (p = 'p' ∨ p = 'P') ∧ (x = 'x' ∨ x = 'X') ∧
        s = blanks ++ p :: x :: rest := by
  constructor
  · intro h
    obtain ⟨p, x, hp, hx, htrim⟩ := afterWord?_px_eq_some_iff.1 h
    refine ⟨s.takeWhile isBlank, p, x, fun c hc => List.mem_takeWhile_imp hc, hp, hx, ?_⟩
    rw [← htrim]
    exact List.takeWhile_append_dropWhile.symm
  · rintro ⟨blanks, p, x, hblanks, hp, hx, rfl⟩
    have hstop : ∀ c ∈ (p :: x :: rest).head?, isBlank c = false := by
      rintro c ⟨⟩
      rcases hp with rfl | rfl <;> decide
    rw [trimLeft, dropWhile_run hblanks hstop]
    exact afterWord?_px_eq_some_iff.2 ⟨p, x, hp, hx, rfl⟩

/-- No number goes on with blanks and `px`. -/
theorem head?_blanks {blanks : List Char} {p x : Char} (hblanks : ∀ c ∈ blanks, isBlank c)
    (hp : p = 'p' ∨ p = 'P') :
    ∀ c ∈ (blanks ++ p :: x :: rest).head?, isDigit c = false ∧ c ≠ '.' := by
  cases blanks with
  | nil =>
    rintro c ⟨⟩
    rcases hp with rfl | rfl <;> decide
  | cons b blanks =>
    rintro c ⟨⟩
    have hb := hblanks b List.mem_cons_self
    refine ⟨not_isDigit_of_isBlank hb, ?_⟩
    rintro rfl
    exact absurd hb (by decide)

/-- What is read as a number, blanks and `px` is a pixel length, and each pixel length is read. -/
theorem readUnit_eq_some_iff :
    ((Numeral.read? s).bind fun read => afterWord? "px" (trimLeft read.2)) = some rest ↔
      ∃ u, IsPixelLength u ∧ s = u ++ rest := by
  constructor
  · intro h
    obtain ⟨⟨number, t⟩, hread, hafter⟩ := Option.bind_eq_some_iff.1 h
    obtain ⟨hwritten, rfl⟩ := Numeral.text_of_read? hread
    obtain ⟨blanks, p, x, hblanks, hp, hx, rfl⟩ := afterBlanks_eq_some_iff.1 hafter
    exact ⟨_, ⟨number, blanks, p, x, hwritten, hblanks, hp, hx, rfl⟩, by simp⟩
  · rintro ⟨u, ⟨number, blanks, p, x, hwritten, hblanks, hp, hx, rfl⟩, rfl⟩
    have htext : number.text ++ (blanks ++ [p, x]) ++ rest =
        number.text ++ (blanks ++ p :: x :: rest) := by simp
    rw [htext, Numeral.read?_text hwritten (head?_blanks hblanks hp)]
    exact afterBlanks_eq_some_iff.2 ⟨blanks, p, x, hblanks, hp, hx, rfl⟩

/-- A number and `px` in any case, with nothing between them. -/
def IsPixelNumber (number : Numeral) (u : List Char) : Prop :=
  number.IsWritten ∧ ∃ p x, (p = 'p' ∨ p = 'P') ∧ (x = 'x' ∨ x = 'X') ∧ u = number.text ++ [p, x]

theorem IsPixelNumber.isPixelLength {number : Numeral} (h : IsPixelNumber number u) :
    IsPixelLength u := by
  obtain ⟨hwritten, p, x, hp, hx, rfl⟩ := h
  exact ⟨number, [], p, x, hwritten, by simp, hp, hx, rfl⟩

theorem read?_pixelNumber {number : Numeral} (h : IsPixelNumber number u) (rest : List Char) :
    ∃ t, Numeral.read? (u ++ rest) = some (number, t) ∧ afterWord? "px" t = some rest := by
  obtain ⟨hwritten, p, x, hp, hx, rfl⟩ := h
  refine ⟨p :: x :: rest, ?_, afterWord?_px_eq_some_iff.2 ⟨p, x, hp, hx, rfl⟩⟩
  rw [List.append_assoc]
  refine Numeral.read?_text hwritten ?_
  rintro c ⟨⟩
  rcases hp with rfl | rfl <;> decide

theorem readPixels?_eq_some_iff {number : Numeral} :
    readPixels? s = some (number, rest) ↔ ∃ u, IsPixelNumber number u ∧ s = u ++ rest := by
  constructor
  · intro h
    obtain ⟨⟨number', t⟩, hread, h⟩ := Option.bind_eq_some_iff.1 h
    obtain ⟨rest', hafter, h⟩ := Option.bind_eq_some_iff.1 h
    cases h
    obtain ⟨hwritten, rfl⟩ := Numeral.text_of_read? hread
    obtain ⟨p, x, hp, hx, rfl⟩ := afterWord?_px_eq_some_iff.1 hafter
    exact ⟨_, ⟨hwritten, p, x, hp, hx, rfl⟩, by simp⟩
  · rintro ⟨u, hu, rfl⟩
    obtain ⟨t, hread, hafter⟩ := read?_pixelNumber hu rest
    rw [readPixels?, hread]
    exact Option.bind_eq_some_iff.2
      ⟨(number, t), rfl, Option.bind_eq_some_iff.2 ⟨rest, hafter, rfl⟩⟩

/-! ## Patterns -/

theorem pixelUnit_eq_some_iff :
    pixelUnit before s = some n ↔ ∃ u rest, s = u ++ rest ∧ u.length = n ∧ IsPixelLength u := by
  rw [pixelUnit, patternOf_eq_some_iff]
  constructor
  · rintro ⟨rest, h, hn⟩
    obtain ⟨u, hu, rfl⟩ := readUnit_eq_some_iff.1 h
    refine ⟨u, rest, rfl, ?_, hu⟩
    rw [← hn, List.length_append]
    omega
  · rintro ⟨u, rest, rfl, rfl, hu⟩
    refine ⟨rest, readUnit_eq_some_iff.2 ⟨u, hu, rfl⟩, ?_⟩
    rw [List.length_append]
    omega

/-- A match of the pattern for words: a pixel length between the ends of a word. -/
theorem pixelWord_eq_some_iff :
    pixelWord before s = some n ↔ wordStartsAfter before ∧
      ∃ u rest, s = u ++ rest ∧ u.length = n ∧ IsPixelLength u ∧ wordEndsBefore rest := by
  have hread (s rest : List Char) :
      ((guard (wordStartsAfter before) : Option Unit).bind fun _ =>
        (Numeral.read? s).bind fun read => (afterWord? "px" (trimLeft read.2)).bind fun rest =>
          (guard (wordEndsBefore rest) : Option Unit).bind fun _ => some rest) = some rest ↔
      wordStartsAfter before ∧ (∃ u, IsPixelLength u ∧ s = u ++ rest) ∧ wordEndsBefore rest := by
    rw [guard_bind_eq_some_iff, ← Option.bind_assoc, Option.bind_eq_some_iff,
      ← readUnit_eq_some_iff]
    constructor
    · rintro ⟨hb, rest', hr, hend⟩
      obtain ⟨he, hrest⟩ := guard_bind_eq_some_iff.1 hend
      cases hrest
      exact ⟨hb, hr, he⟩
    · rintro ⟨hb, hr, he⟩
      exact ⟨hb, rest, hr, guard_bind_eq_some_iff.2 ⟨he, rfl⟩⟩
  rw [pixelWord, patternOf_eq_some_iff]
  constructor
  · rintro ⟨rest, h, hn⟩
    obtain ⟨hb, ⟨u, hu, rfl⟩, he⟩ := (hread s rest).1 h
    refine ⟨hb, u, rest, rfl, ?_, hu, he⟩
    rw [← hn, List.length_append]
    omega
  · rintro ⟨hb, u, rest, rfl, rfl, hu, he⟩
    refine ⟨rest, (hread _ rest).2 ⟨hb, ⟨u, hu, rfl⟩, he⟩, ?_⟩
    rw [List.length_append]
    omega

/-- A pixel length alone is a match. -/
theorem IsPixelLength.pixelWord_eq_some (h : IsPixelLength u) (hb : wordStartsAfter before) :
    pixelWord before u = some u.length :=
  pixelWord_eq_some_iff.2 ⟨hb, u, [], (List.append_nil u).symm, rfl, h, rfl⟩

/-- The first number of pixels in a text. -/
theorem first?_pixelUnit_eq_some {e : Extent} (h : pixelUnit.first? s = some e) :
    ∃ a u b, s = a ++ (u ++ b) ∧ e = ⟨a.length, u.length⟩ ∧ IsPixelLength u := by
  obtain ⟨a, t, rfl, hstart, hmatch, -⟩ := Pattern.first?_eq_some_iff.1 h
  obtain ⟨u, b, rfl, hlength, hu⟩ := pixelUnit_eq_some_iff.1 hmatch
  refine ⟨a, u, b, rfl, ?_, hu⟩
  rw [← hstart, hlength]

/-- The first pixel length in a text that is a word of its own. -/
theorem first?_pixelWord_eq_some {e : Extent} (h : pixelWord.first? s = some e) :
    ∃ a u b, s = a ++ (u ++ b) ∧ e = ⟨a.length, u.length⟩ ∧ IsPixelLength u := by
  obtain ⟨a, t, rfl, hstart, hmatch, -⟩ := Pattern.first?_eq_some_iff.1 h
  obtain ⟨-, u, b, rfl, hlength, hu, -⟩ := pixelWord_eq_some_iff.1 hmatch
  refine ⟨a, u, b, rfl, ?_, hu⟩
  rw [← hstart, hlength]

/-- A match of the pattern for fixed values: a whole number of pixels between the ends of a word. -/
theorem fixedPixels_eq_some_iff :
    fixedPixels before s = some n ↔ wordStartsAfter before ∧
      ∃ digits u rest, s = u ++ rest ∧ u.length = n ∧ IsPixelNumber ⟨digits, []⟩ u ∧
        wordEndsBefore rest := by
  have hread (s rest : List Char) :
      ((guard (wordStartsAfter before && s.head?.any isDigit) : Option Unit).bind fun _ =>
        (afterWord? "px" (s.dropWhile isDigit)).bind fun rest =>
          (guard (wordEndsBefore rest) : Option Unit).bind fun _ => some rest) = some rest ↔
      wordStartsAfter before ∧ (∃ digits u, IsPixelNumber ⟨digits, []⟩ u ∧ s = u ++ rest) ∧
        wordEndsBefore rest := by
    rw [guard_bind_eq_some_iff, Bool.and_eq_true, Option.bind_eq_some_iff]
    constructor
    · rintro ⟨⟨hb, hhead⟩, rest', hpx, hend⟩
      obtain ⟨he, hrest⟩ := guard_bind_eq_some_iff.1 hend
      cases hrest
      obtain ⟨p, x, hp, hx, hdrop⟩ := afterWord?_px_eq_some_iff.1 hpx
      refine ⟨hb, ⟨s.takeWhile isDigit, s.takeWhile isDigit ++ [p, x],
        ⟨Numeral.isWritten_takeWhile hhead, p, x, hp, hx, by simp [Numeral.text]⟩, ?_⟩, he⟩
      rw [List.append_assoc, List.cons_append, List.singleton_append, ← hdrop]
      exact List.takeWhile_append_dropWhile.symm
    · rintro ⟨hb, ⟨digits, u, ⟨hwritten, p, x, hp, hx, rfl⟩, rfl⟩, he⟩
      have htext : Numeral.text ⟨digits, []⟩ ++ [p, x] ++ rest = digits ++ p :: x :: rest := by
        simp [Numeral.text]
      have hstop : ∀ c ∈ (p :: x :: rest).head?, isDigit c = false := by
        rintro c ⟨⟩
        rcases hp with rfl | rfl <;> decide
      rw [htext, dropWhile_run hwritten.whole hstop]
      exact ⟨⟨hb, hwritten.head?_any _⟩, rest, afterWord?_px_eq_some_iff.2 ⟨p, x, hp, hx, rfl⟩,
        guard_bind_eq_some_iff.2 ⟨he, rfl⟩⟩
  rw [fixedPixels, patternOf_eq_some_iff]
  constructor
  · rintro ⟨rest, h, rfl⟩
    obtain ⟨hb, ⟨digits, u, hu, rfl⟩, he⟩ := (hread s rest).1 h
    exact ⟨hb, digits, u, rest, rfl, by simp, hu, he⟩
  · rintro ⟨hb, digits, u, rest, rfl, rfl, hu, he⟩
    exact ⟨rest, (hread _ rest).2 ⟨hb, ⟨digits, u, hu, rfl⟩, he⟩, by simp⟩

/-- Where a whole number of pixels stands, a pixel length stands: its number has no fraction and no
blank behind it. -/
theorem pixelWord_ne_none (h : fixedPixels before s = some n) : pixelWord before s ≠ none := by
  obtain ⟨hb, digits, u, rest, hs, hlength, hu, he⟩ := fixedPixels_eq_some_iff.1 h
  rw [pixelWord_eq_some_iff.2 ⟨hb, u, rest, hs, hlength, hu.isPixelLength, he⟩]
  exact Option.some_ne_none n

/-- A fixed value has a pixel length that is a word of its own. -/
theorem exists_pixelWord_of_isFixed {value : String} (h : isFixed value) :
    ∃ e, pixelWord.first? value.toList = some e := by
  obtain ⟨e, he⟩ := Option.isSome_iff_exists.1 h
  obtain ⟨a, b, hs, -, hmatch, -⟩ := Pattern.first?_eq_some_iff.1 he
  obtain ⟨n, hn⟩ := Option.ne_none_iff_exists'.1 (pixelWord_ne_none hmatch)
  rw [hs]
  exact Option.ne_none_iff_exists'.1 (Pattern.first?_ne_none hn)

end Length

end Reflow
