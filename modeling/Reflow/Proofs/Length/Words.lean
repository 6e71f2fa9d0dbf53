import Reflow.Proofs.Length.Pixels

/-!
# Pixel lengths in longer texts

A pixel length starts with a digit, and its `x` is its last character. So what stands around a text
does not change its first pixel length, as long as words end there.

* `pixelWord_append`, `pixelWord_of_append`: a match stays one if text is put behind it or taken
  away.
* `stop_le_stop`: of two matches, the one that starts later does not end sooner.
* `first?_pixelWord_of_append`: a text cut off behind a pixel length keeps its first one.
* `first?_pixelWord_append`: so does a text with a lead that has no digit.
-/

namespace Reflow

open Text

namespace Length

variable {s t u a b : List Char} {before before' : Option Char} {n m : Nat} {e : Extent}

/-! ## First and last characters -/

theorem IsPixelLength.exists_cons (h : IsPixelLength u) : ∃ c v, u = c :: v ∧ isDigit c := by
  obtain ⟨number, blanks, p, x, hwritten, -, -, -, rfl⟩ := h
  obtain ⟨c, whole, hwhole⟩ := List.exists_cons_of_ne_nil hwritten.whole_ne
  have hc : isDigit c := hwritten.whole c (by rw [hwhole]; exact List.mem_cons_self)
  rw [Numeral.text, hwhole, List.cons_append, List.cons_append]
  exact ⟨c, _, rfl, hc⟩

/-- Only the last character is an `x`. -/
theorem IsPixelLength.exists_concat (h : IsPixelLength u) :
    ∃ v x, u = v ++ [x] ∧ (x = 'x' ∨ x = 'X') ∧ ∀ c ∈ v, c ≠ 'x' ∧ c ≠ 'X' := by
  obtain ⟨number, blanks, p, x, hwritten, hblanks, hp, hx, rfl⟩ := h
  have hdigit (c : Char) (hc : isDigit c) : c ≠ 'x' ∧ c ≠ 'X' := by
    constructor <;> rintro rfl <;> exact absurd hc (by decide)
  have hblank (c : Char) (hc : isBlank c) : c ≠ 'x' ∧ c ≠ 'X' := by
    constructor <;> rintro rfl <;> exact absurd hc (by decide)
  refine ⟨number.text ++ (blanks ++ [p]), x, by simp, hx, fun c hc => ?_⟩
  rw [List.mem_append, List.mem_append, List.mem_singleton] at hc
  rcases hc with hc | hc | rfl
  · rcases hwritten.mem_text hc with hc | rfl
    · exact hdigit c hc
    · decide
  · exact hblank c (hblanks c hc)
  · rcases hp with rfl | rfl <;> decide

theorem pixelWord_eq_none (h : ∀ c ∈ s.head?, isDigit c = false) : pixelWord before s = none := by
  cases hmatch : pixelWord before s with
  | none => rfl
  | some n =>
    obtain ⟨-, u, rest, rfl, -, hu, -⟩ := pixelWord_eq_some_iff.1 hmatch
    obtain ⟨c, v, rfl, hc⟩ := hu.exists_cons
    rw [h c rfl] at hc
    cases hc

/-! ## One match -/

theorem pixelWord_congr (h : wordStartsAfter before = wordStartsAfter before') :
    pixelWord before s = pixelWord before' s := by
  unfold pixelWord patternOf
  dsimp only
  rw [h]

theorem wordEndsBefore_append (hs : wordEndsBefore s) (ht : wordEndsBefore t) :
    wordEndsBefore (s ++ t) := by
  cases s with
  | nil => exact ht
  | cons c s => exact hs

theorem wordEndsBefore_of_append (h : wordEndsBefore (s ++ t)) : wordEndsBefore s := by
  cases s with
  | nil => rfl
  | cons c s => exact h

theorem pixelWord_append (h : pixelWord before s = some n) (ht : wordEndsBefore t) :
    pixelWord before (s ++ t) = some n := by
  obtain ⟨hb, u, rest, rfl, hn, hu, he⟩ := pixelWord_eq_some_iff.1 h
  exact pixelWord_eq_some_iff.2
    ⟨hb, u, rest ++ t, List.append_assoc _ _ _, hn, hu, wordEndsBefore_append he ht⟩

theorem pixelWord_of_append (h : pixelWord before (s ++ t) = some n) (hn : n ≤ s.length) :
    pixelWord before s = some n := by
  obtain ⟨hb, u, rest, hs, rfl, hu, he⟩ := pixelWord_eq_some_iff.1 h
  obtain ⟨rest', rfl⟩ := List.prefix_of_prefix_length_le ⟨rest, hs.symm⟩ (List.prefix_append s t) hn
  rw [List.append_assoc, List.append_cancel_left_eq] at hs
  subst hs
  exact pixelWord_eq_some_iff.2 ⟨hb, u, rest', rfl, rfl, hu, wordEndsBefore_of_append he⟩

/-! ## Several matches -/

/-- Of two matches in a text, the one that starts later does not end sooner: it would put its last
character inside the other one. -/
theorem stop_le_stop {a' b' : List Char} (h : pixelWord before b = some n)
    (h' : pixelWord before' b' = some m) (hs : a ++ b = a' ++ b') (hle : a.length ≤ a'.length) :
    a.length + n ≤ a'.length + m := by
  obtain ⟨-, u, rest, rfl, rfl, hu, -⟩ := pixelWord_eq_some_iff.1 h
  obtain ⟨-, u', rest', rfl, rfl, hu', -⟩ := pixelWord_eq_some_iff.1 h'
  obtain ⟨d, rfl⟩ := List.prefix_of_prefix_length_le ⟨_, hs⟩ (List.prefix_append a' _) hle
  rw [List.append_assoc, List.append_cancel_left_eq] at hs
  by_contra hlt
  have hlt : (d ++ u').length < u.length := by
    simp only [List.length_append] at hlt ⊢
    omega
  have hprefix : d ++ u' <+: u ++ rest := ⟨rest', by rw [hs, List.append_assoc]⟩
  obtain ⟨c, hc⟩ := List.prefix_of_prefix_length_le hprefix (List.prefix_append u rest) hlt.le
  obtain ⟨v, x, hv, -, hnot⟩ := hu.exists_concat
  obtain ⟨v', x', rfl, hx', -⟩ := hu'.exists_concat
  have hlen := congrArg List.length hv
  rw [List.length_append, List.length_singleton] at hlen
  have hinside : d ++ (v' ++ [x']) <+: v :=
    List.prefix_of_prefix_length_le ⟨c, hc.trans hv⟩ (List.prefix_append v [x]) (by omega)
  have hmem : x' ∈ v := hinside.subset (by simp)
  rcases hx' with rfl | rfl
  · exact (hnot _ hmem).1 rfl
  · exact (hnot _ hmem).2 rfl

theorem wordEndsBefore_of_pixelWord (h : pixelWord before (u ++ t) = some u.length) :
    wordEndsBefore t := by
  obtain ⟨-, u', rest, hs, hlength, -, he⟩ := pixelWord_eq_some_iff.1 h
  obtain ⟨-, rfl⟩ := List.append_inj hs hlength.symm
  exact he

/-- A text that is cut off behind a pixel length keeps its first one. -/
theorem first?_pixelWord_of_append (h : pixelWord.first? (a ++ (u ++ t)) = some e)
    (hu : pixelWord a.getLast? (u ++ t) = some u.length) :
    pixelWord.first? (a ++ u) = some e := by
  obtain ⟨a₀, b₀, hs, hstart, hmatch, hleft⟩ := Pattern.first?_eq_some_iff.1 h
  have hle : a₀.length ≤ a.length := by
    by_contra hlt
    rw [hleft a (u ++ t) rfl (by omega)] at hu
    cases hu
  have hstop := stop_le_stop hmatch hu hs.symm hle
  have hsplit : a ++ u ++ t = a₀ ++ b₀ := by rw [List.append_assoc, hs]
  obtain ⟨b₁, hb₁⟩ := List.prefix_of_prefix_length_le (List.prefix_append a₀ b₀)
    ⟨t, hsplit⟩ (by rw [List.length_append]; omega)
  have hb₀ : b₀ = b₁ ++ t := by
    rw [← hb₁, List.append_assoc, List.append_cancel_left_eq] at hsplit
    exact hsplit.symm
  have hlen := congrArg List.length hb₁
  simp only [List.length_append] at hlen
  refine Pattern.first?_eq_some_iff.2 ⟨a₀, b₁, hb₁.symm, hstart, ?_, ?_⟩
  · rw [hb₀] at hmatch
    exact pixelWord_of_append hmatch (by omega)
  · -- A place further left would match in the longer text too.
    intro a' b' hs' hlt
    cases hmatch' : pixelWord a'.getLast? b' with
    | none => rfl
    | some n =>
      have hlong := pixelWord_append hmatch' (wordEndsBefore_of_pixelWord hu)
      have hplace : a ++ (u ++ t) = a' ++ (b' ++ t) := by
        rw [← List.append_assoc, hs', List.append_assoc]
      rw [hleft a' (b' ++ t) hplace hlt] at hlong
      cases hlong

theorem wordStartsAfter_or {c d : Option Char} (hd : wordStartsAfter d) :
    wordStartsAfter (c.or d) = wordStartsAfter c := by
  cases c with
  | none => exact hd
  | some c => rfl

/-- A lead without a digit moves the first pixel length and changes nothing else. -/
theorem first?_pixelWord_append (hlead : ∀ c ∈ a, isDigit c = false)
    (hlast : wordStartsAfter a.getLast?) (h : pixelWord.first? s = some e) :
    pixelWord.first? (a ++ s) = some ⟨a.length + e.start, e.length⟩ := by
  obtain ⟨a₀, b₀, rfl, hstart, hmatch, hleft⟩ := Pattern.first?_eq_some_iff.1 h
  have hshift (a' b' : List Char) : pixelWord (a ++ a').getLast? b' = pixelWord a'.getLast? b' := by
    rw [List.getLast?_append]
    exact pixelWord_congr (wordStartsAfter_or hlast)
  refine Pattern.first?_eq_some_iff.2 ⟨a ++ a₀, b₀, (List.append_assoc _ _ _).symm, ?_, ?_, ?_⟩
  · rw [List.length_append, hstart]
  · rw [hshift, hmatch]
  · intro a' b' hs hlt
    rcases Nat.lt_or_ge a'.length a.length with hin | hout
    · -- Inside the lead no digit starts a number.
      obtain ⟨d, rfl⟩ := List.prefix_of_prefix_length_le ⟨b', hs.symm⟩
        (List.prefix_append a _) hin.le
      rw [List.append_assoc, List.append_cancel_left_eq] at hs
      subst hs
      refine pixelWord_eq_none fun c hc => ?_
      have hd : d ≠ [] := by
        rintro rfl
        simp at hin
      obtain ⟨c', d, rfl⟩ := List.exists_cons_of_ne_nil hd
      cases hc
      exact hlead c (by simp)
    · obtain ⟨d, rfl⟩ := List.prefix_of_prefix_length_le (List.prefix_append a _)
        ⟨b', hs.symm⟩ hout
      rw [List.append_assoc, List.append_cancel_left_eq] at hs
      rw [hshift]
      rw [List.length_append, List.length_append] at hlt
      exact hleft d b' hs (by omega)

/-- Text behind that has no `x` brings no pixel length. -/
theorem first?_pixelWord_eq_none (h : pixelWord.first? s = none)
    (ht : ∀ c ∈ t, c ≠ 'x' ∧ c ≠ 'X') : pixelWord.first? (s ++ t) = none := by
  rw [Pattern.first?_eq_none_iff] at h ⊢
  intro a b hs
  cases hmatch : pixelWord a.getLast? b with
  | none => rfl
  | some n =>
    obtain ⟨-, u, rest, rfl, rfl, hu, -⟩ := pixelWord_eq_some_iff.1 hmatch
    have hsplit : s ++ t = a ++ u ++ rest := by rw [hs, List.append_assoc]
    rcases Nat.lt_or_ge s.length (a ++ u).length with hlt | hle
    · obtain ⟨v, x, rfl, hx, -⟩ := hu.exists_concat
      have hprefix : a ++ v <+: s ++ t := ⟨x :: rest, by rw [hs]; simp⟩
      obtain ⟨d, hd⟩ := List.prefix_of_prefix_length_le (List.prefix_append s t) hprefix (by
        simp only [List.length_append, List.length_singleton] at hlt ⊢
        omega)
      have hxt : x ∈ t := by
        rw [← List.append_assoc, ← hd, List.append_assoc, List.append_assoc,
          List.append_cancel_left_eq] at hsplit
        rw [hsplit]
        simp
      rcases hx with rfl | rfl
      · exact absurd rfl (ht _ hxt).1
      · exact absurd rfl (ht _ hxt).2
    · obtain ⟨rest', hrest⟩ := List.prefix_of_prefix_length_le ⟨rest, hsplit.symm⟩
        (List.prefix_append s t) hle
      rw [← hrest, List.append_assoc, List.append_cancel_left_eq] at hsplit
      rw [← hsplit, ← List.append_assoc] at hmatch
      have hshort := pixelWord_of_append hmatch (by rw [List.length_append]; omega)
      rw [h a (u ++ rest') (by rw [← hrest, List.append_assoc])] at hshort
      cases hshort

end Length

end Reflow
