import Mathlib.Data.List.Induction
import Reflow.Proofs.Lists
import Reflow.Text.Blank

/-!
# Words between white space

What `words` gives, said by the text and not by how it is read. A word is a run without blanks that
blanks or the ends of the text stand around.

* `words_blanks_word`: blanks and a word at the front are taken off.
* `words_append`: a text behind a blank has its words behind the others.
* `IsWordBetween`: a word with what stands in front of it and behind it. The words of a text are
  those (`words_eq_append_cons_iff`).
* `length_words_le`: further right, no fewer words stand in front.
-/

namespace Reflow.Text

variable {c : Char} {s x y x' y' w w' rest : List Char} {ws ws' : List (List Char)}

/-! ## Words at the front -/

theorem words_of_blanks (h : ∀ c ∈ s, isBlank c) : words s = [] := by
  have hs : trimLeft s = [] := List.dropWhile_eq_nil_iff.2 h
  rw [words]
  split
  · rfl
  · next hcons =>
    rw [hs] at hcons
    cases hcons

theorem words_of_trimLeft (h : trimLeft s = c :: rest) :
    words s =
      (c :: rest.takeWhile fun c => !isBlank c) :: words (rest.dropWhile fun c => !isBlank c) := by
  rw [words]
  split
  · next hnil =>
    rw [h] at hnil
    cases hnil
  · next hcons =>
    rw [h] at hcons
    cases hcons
    rfl

/-- A run without blanks, with blanks or nothing at both sides. -/
structure IsWordBetween (x w y : List Char) : Prop where
  ne_nil : w ≠ []
  no_blank : ∀ c ∈ w, isBlank c = false
  left : ∀ c ∈ x.getLast?, isBlank c
  right : ∀ c ∈ y.head?, isBlank c

theorem IsWordBetween.of_blanks (hx : ∀ c ∈ x, isBlank c) (hne : w ≠ [])
    (hw : ∀ c ∈ w, isBlank c = false) (hy : ∀ c ∈ y.head?, isBlank c) : IsWordBetween x w y :=
  ⟨hne, hw, fun c hc => hx c (List.mem_of_getLast? hc), hy⟩

theorem words_blanks_word (hx : ∀ c ∈ x, isBlank c) (h : IsWordBetween x w y) :
    words (x ++ (w ++ y)) = w :: words y := by
  obtain ⟨hne, hblank, -, hright⟩ := h
  obtain ⟨c, w, rfl⟩ := List.exists_cons_of_ne_nil hne
  obtain ⟨hc, hw⟩ := List.forall_mem_cons.1 hblank
  have htrim : trimLeft (x ++ (c :: w ++ y)) = c :: (w ++ y) := by
    refine dropWhile_run hx ?_
    rintro d ⟨⟩
    exact hc
  have hrun : ∀ d ∈ w, (!isBlank d) = true := fun d hd => by rw [hw d hd]; rfl
  have hstop : ∀ d ∈ y.head?, (!isBlank d) = false := fun d hd => by rw [hright d hd]; rfl
  rw [words_of_trimLeft htrim, takeWhile_run hrun hstop, dropWhile_run hrun hstop]

/-- The run without blanks that a text starts with. -/
theorem exists_run_head (s : List Char) :
    ∃ w y, s = w ++ y ∧ (∀ c ∈ w, isBlank c = false) ∧ ∀ c ∈ y.head?, isBlank c := by
  induction s with
  | nil => exact ⟨[], [], rfl, by simp, by simp⟩
  | cons c s ih =>
    by_cases hc : isBlank c
    · refine ⟨[], c :: s, rfl, by simp, ?_⟩
      rintro _ ⟨⟩
      exact hc
    · obtain ⟨w, y, rfl, hw, hy⟩ := ih
      exact ⟨c :: w, y, rfl, List.forall_mem_cons.2 ⟨Bool.eq_false_iff.2 hc, hw⟩, hy⟩

/-- The run without blanks that a text ends in. -/
theorem exists_run_last (s : List Char) :
    ∃ x w, s = x ++ w ∧ (∀ c ∈ x.getLast?, isBlank c) ∧ ∀ c ∈ w, isBlank c = false := by
  induction s using List.reverseRecOn with
  | nil => exact ⟨[], [], rfl, by simp, by simp⟩
  | append_singleton s c ih =>
    by_cases hc : isBlank c
    · exact ⟨s ++ [c], [], by simp, by simpa using hc, by simp⟩
    · obtain ⟨x, w, rfl, hx, hw⟩ := ih
      refine ⟨x, w ++ [c], by simp, hx, fun d hd => ?_⟩
      rcases List.mem_append.1 hd with hd | hd
      · exact hw d hd
      · rw [List.mem_singleton.1 hd]
        exact Bool.eq_false_iff.2 hc

/-- A text without words is blank, and others start with blanks and a word. -/
theorem blank_or_exists_word (s : List Char) :
    (∀ c ∈ s, isBlank c) ∨
      ∃ x w y, s = x ++ (w ++ y) ∧ (∀ c ∈ x, isBlank c) ∧ IsWordBetween x w y := by
  induction s with
  | nil => exact .inl (by simp)
  | cons c s ih =>
    by_cases hc : isBlank c
    · rcases ih with hs | ⟨x, w, y, rfl, hx, hw⟩
      · exact .inl (List.forall_mem_cons.2 ⟨hc, hs⟩)
      · have hblanks : ∀ d ∈ c :: x, isBlank d := List.forall_mem_cons.2 ⟨hc, hx⟩
        exact .inr ⟨c :: x, w, y, rfl, hblanks, .of_blanks hblanks hw.ne_nil hw.no_blank hw.right⟩
    · obtain ⟨w, y, rfl, hw, hy⟩ := exists_run_head s
      have hword : ∀ d ∈ c :: w, isBlank d = false :=
        List.forall_mem_cons.2 ⟨Bool.eq_false_iff.2 hc, hw⟩
      exact .inr ⟨[], c :: w, y, rfl, by simp, .of_blanks (by simp) (List.cons_ne_nil c w) hword hy⟩

/-! ## Texts behind blanks -/

theorem words_blanks_append (hx : ∀ c ∈ x, isBlank c) (y : List Char) :
    words (x ++ y) = words y := by
  rcases blank_or_exists_word y with hy | ⟨b, w, z, rfl, hb, hw⟩
  · rw [words_of_blanks hy, words_of_blanks fun c hc => (List.mem_append.1 hc).elim (hx c) (hy c)]
  · have hblanks : ∀ c ∈ x ++ b, isBlank c := fun c hc => (List.mem_append.1 hc).elim (hx c) (hb c)
    have hword : IsWordBetween (x ++ b) w z := .of_blanks hblanks hw.ne_nil hw.no_blank hw.right
    rw [← List.append_assoc, words_blanks_word hblanks hword, words_blanks_word hb hw]

/-- A word does not start where a blank does. -/
theorem IsWordBetween.left_ne_nil (h : IsWordBetween x w y)
    (hfirst : ∀ c ∈ (x ++ (w ++ y)).head?, isBlank c) : x ≠ [] := by
  rintro rfl
  obtain ⟨d, v, rfl⟩ := List.exists_cons_of_ne_nil h.ne_nil
  have hblank : isBlank d := hfirst d rfl
  rw [h.no_blank d List.mem_cons_self] at hblank
  cases hblank

/-- A word does not end where a blank does. -/
theorem IsWordBetween.right_ne_nil (h : IsWordBetween x w y)
    (hlast : ∀ c ∈ (x ++ (w ++ y)).getLast?, isBlank c) : y ≠ [] := by
  rintro rfl
  obtain ⟨v, d, rfl⟩ := (List.eq_nil_or_concat w).resolve_left h.ne_nil
  have hblank : isBlank d := hlast d (by simp)
  rw [h.no_blank d (by simp)] at hblank
  cases hblank

/-- A text behind a blank has its words behind the others. -/
theorem words_append (hx : ∀ c ∈ x.getLast?, isBlank c) (y : List Char) :
    words (x ++ y) = words x ++ words y := by
  induction hn : x.length using Nat.strongRecOn generalizing x with
  | ind n ih =>
    rcases blank_or_exists_word x with hblanks | ⟨b, w, z, rfl, hb, hw⟩
    · rw [words_blanks_append hblanks, words_of_blanks hblanks, List.nil_append]
    · -- What follows the first word ends with the same blank.
      have hz : z ≠ [] := hw.right_ne_nil hx
      have hlast : ∀ c ∈ z.getLast?, isBlank c := by
        rwa [List.getLast?_append_of_ne_nil _ (by simp [hz]),
          List.getLast?_append_of_ne_nil _ hz] at hx
      have hshorter : z.length < n := by
        have hpos := List.length_pos_of_ne_nil hw.ne_nil
        simp only [List.length_append] at hn
        omega
      have hlong : IsWordBetween b w (z ++ y) := by
        refine ⟨hw.ne_nil, hw.no_blank, hw.left, ?_⟩
        rw [List.head?_append_of_ne_nil _ hz]
        exact hw.right
      rw [List.append_assoc, List.append_assoc, words_blanks_word hb hlong, ih _ hshorter hlast rfl,
        words_blanks_word hb hw, List.cons_append]

/-! ## Words anywhere -/

theorem words_eq_cons_iff :
    words s = w :: ws ↔
      ∃ x y, s = x ++ (w ++ y) ∧ (∀ c ∈ x, isBlank c) ∧ IsWordBetween x w y ∧ words y = ws := by
  constructor
  · intro h
    rcases blank_or_exists_word s with hs | ⟨x, v, y, rfl, hx, hv⟩
    · rw [words_of_blanks hs] at h
      cases h
    · rw [words_blanks_word hx hv] at h
      obtain ⟨rfl, hws⟩ := List.cons.inj h
      exact ⟨x, y, rfl, hx, hv, hws⟩
  · rintro ⟨x, y, rfl, hx, hw, rfl⟩
    exact words_blanks_word hx hw

/-- The words of a text are the runs without blanks that blanks or the ends stand around. -/
theorem words_eq_append_cons_iff :
    words s = ws ++ w :: ws' ↔
      ∃ x y, s = x ++ (w ++ y) ∧ IsWordBetween x w y ∧ words x = ws ∧ words y = ws' := by
  constructor
  · intro h
    induction ws generalizing s with
    | nil =>
      obtain ⟨x, y, rfl, hx, hw, hy⟩ := words_eq_cons_iff.1 h
      exact ⟨x, y, rfl, hw, words_of_blanks hx, hy⟩
    | cons v ws ih =>
      obtain ⟨b, z, rfl, hb, hv, hz⟩ := words_eq_cons_iff.1 h
      obtain ⟨x, y, rfl, hw, rfl, rfl⟩ := ih hz
      -- The blank behind the first word stands in front of the other one.
      have hx : x ≠ [] := hw.left_ne_nil hv.right
      have hfirst : IsWordBetween b v x := by
        refine ⟨hv.ne_nil, hv.no_blank, hv.left, ?_⟩
        have hright := hv.right
        rwa [List.head?_append_of_ne_nil _ hx] at hright
      refine ⟨b ++ (v ++ x), y, by simp, ⟨hw.ne_nil, hw.no_blank, ?_, hw.right⟩,
        words_blanks_word hb hfirst, rfl⟩
      rw [List.getLast?_append_of_ne_nil _ (by simp [hx]), List.getLast?_append_of_ne_nil _ hx]
      exact hw.left
  · rintro ⟨x, y, rfl, hw, rfl, rfl⟩
    rw [words_append hw.left]
    congr 1
    have hfront : IsWordBetween [] w y := ⟨hw.ne_nil, hw.no_blank, by simp, hw.right⟩
    exact words_eq_cons_iff.2 ⟨[], y, rfl, by simp, hfront, rfl⟩

/-- Further right, no fewer words stand in front. The second place may be inside a word. -/
theorem length_words_le (hx : ∀ c ∈ x.getLast?, isBlank c) (hw : ∀ c ∈ w, isBlank c = false)
    (hs : x ++ y = x' ++ (w ++ y')) (hle : x.length ≤ (x' ++ w).length) :
    (words x).length ≤ (words x').length := by
  rcases Nat.le_total x.length x'.length with hshort | hlong
  · obtain ⟨d, rfl⟩ := List.prefix_of_prefix_length_le ⟨y, hs⟩ (List.prefix_append x' _) hshort
    rw [words_append hx, List.length_append]
    omega
  · obtain ⟨d, rfl⟩ := List.prefix_of_prefix_length_le (List.prefix_append x' _) ⟨y, hs⟩ hlong
    cases hd : d.getLast? with
    | none =>
      rw [List.getLast?_eq_none_iff.1 hd, List.append_nil]
    | some c =>
      -- A blank would stand inside the word.
      have hblank : isBlank c := hx c (by rw [List.getLast?_append, hd]; rfl)
      rw [List.append_assoc, List.append_cancel_left_eq] at hs
      have hinside : d <+: w := by
        refine List.prefix_of_prefix_length_le ⟨y, hs⟩ (List.prefix_append w y') ?_
        simp only [List.length_append] at hle
        omega
      rw [hw c (hinside.subset (List.mem_of_getLast? hd))] at hblank
      cases hblank

end Reflow.Text
