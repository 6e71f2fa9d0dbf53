import Mathlib.Data.List.Forall2
import Mathlib.Data.List.Infix
import Reflow.Text.Search

/-!
# Occurrences of a text in a text

What the searches of `Reflow/Text/Search.lean` find, said with `<+:` (is in front of) and `<:+:`
(occurs in).

* `afterLead?_eq_some_iff`, `afterLeadCaseless?_eq_some_iff`: reading a fixed text takes it off the
  front.
* `breakAt?_eq_none_iff`: a search fails exactly if the text does not occur.
* `breakAt?_eq_some`: what a search finds, and that nothing is found further left.
* `breakAt?_append`: a search stops at the first occurrence. It asks for a text whose first
  character does not come again in it, so that no occurrence overlaps another.
* `breakAt?_singleton_eq_some_iff`, `breakAt?_singleton_eq_none_iff`: the search for one character.
* `not_infix_append_cons`: no occurrence goes over a character that the text does not have.
* `suffix_of_not_mem`: what starts with a character stands behind any text that does not have it.
* `splitAt_append_cons`, `length_splitAt`: a mark parts the pieces around it, and there is one
  piece more than there are marks.
* `intercalate_splitAt`, `not_mem_of_mem_splitAt`: the pieces make up the text, and none of them has
  the mark. `splitAt_intercalate`: no other texts joined by the mark do.
* `not_infix_intercalate`: what occurs in joined texts occurs in one of them.
-/

namespace Reflow.Text

variable {needle lead a b s rest : List Char} {c mark : Char}

/-! ## A text in front -/

theorem afterLead?_append (lead rest : List Char) : afterLead? lead (lead ++ rest) = some rest := by
  induction lead with
  | nil => rfl
  | cons c lead ih => simpa [afterLead?] using ih

theorem afterLead?_eq_some_iff : afterLead? lead s = some rest ↔ s = lead ++ rest := by
  refine ⟨fun h => ?_, fun h => h ▸ afterLead?_append lead rest⟩
  fun_induction afterLead? lead s with
  | case1 s => cases h; rfl
  | case2 => cases h
  | case3 a lead s ih => rw [ih h, List.cons_append]
  | case4 => cases h

theorem afterLead?_eq_none_iff : afterLead? lead s = none ↔ ¬ lead <+: s := by
  constructor
  · rintro h ⟨rest, rfl⟩
    rw [afterLead?_append] at h
    cases h
  · intro h
    cases hr : afterLead? lead s with
    | none => rfl
    | some rest => exact absurd ⟨rest, (afterLead?_eq_some_iff.1 hr).symm⟩ h

/-- A text up to letter case is read off the front letter by letter. -/
theorem afterLeadCaseless?_eq_some_iff :
    afterLeadCaseless? lead s = some rest ↔
      ∃ word, s = word ++ rest ∧ List.Forall₂ (fun a b => sameLetter a b) lead word := by
  fun_induction afterLeadCaseless? lead s with
  | case1 s => simp
  | case2 a lead => simp
  | case3 a lead b s hab ih =>
    rw [ih]
    constructor
    · rintro ⟨word, rfl, h⟩
      exact ⟨b :: word, rfl, .cons hab h⟩
    · rintro ⟨word, hs, h⟩
      cases h with
      | cons hab h =>
        obtain ⟨rfl, rfl⟩ := List.cons.inj hs
        exact ⟨_, rfl, h⟩
  | case4 a lead b s hab =>
    simp only [reduceCtorEq, false_iff]
    rintro ⟨word, hs, h⟩
    cases h with
    | cons hab' h =>
      obtain ⟨rfl, rfl⟩ := List.cons.inj hs
      exact hab hab'

/-- A text of two parts is read off part by part. -/
theorem afterLeadCaseless?_append (lead next s : List Char) :
    afterLeadCaseless? (lead ++ next) s =
      (afterLeadCaseless? lead s).bind (afterLeadCaseless? next) := by
  fun_induction afterLeadCaseless? lead s with
  | case1 s => rfl
  | case2 a lead => rfl
  | case3 a lead b s hab ih => rw [List.cons_append, afterLeadCaseless?, if_pos hab, ih]
  | case4 a lead b s hab => rw [List.cons_append, afterLeadCaseless?, if_neg hab, Option.bind_none]

/-! ## A text somewhere -/

theorem breakAt?_eq_none_iff : breakAt? needle s = none ↔ ¬ needle <:+: s := by
  induction s with
  | nil => cases needle <;> simp [breakAt?]
  | cons c s ih =>
    rw [breakAt?, List.infix_cons_iff, not_or]
    cases h : afterLead? needle (c :: s) with
    | some rest =>
      have hp : needle <+: c :: s := ⟨rest, (afterLead?_eq_some_iff.1 h).symm⟩
      simp [hp]
    | none =>
      rw [afterLead?_eq_none_iff] at h
      simp only [Option.map_eq_none_iff, ih, h, not_false_eq_true, true_and]

theorem contains_eq_false_iff : contains needle s = false ↔ ¬ needle <:+: s := by
  rw [contains, Option.isSome_eq_false_iff, Option.isNone_iff_eq_none, breakAt?_eq_none_iff]

theorem contains_iff_infix : contains needle s ↔ needle <:+: s := by
  rw [← not_iff_not, Bool.not_eq_true, contains_eq_false_iff]

/-- An occurrence that begins in the text before another one would put its first character inside
that one. -/
private theorem not_prefix_append (h : c ∉ needle) (ha : ¬ c :: needle <:+: a) (hne : a ≠ []) :
    ¬ c :: needle <+: a ++ (c :: needle ++ b) := by
  intro hp
  rcases Nat.le_total (c :: needle).length a.length with hle | hle
  · exact ha (List.prefix_of_prefix_length_le hp (List.prefix_append a _) hle).isInfix
  · obtain ⟨u, hu⟩ := List.prefix_of_prefix_length_le (List.prefix_append a _) hp hle
    obtain ⟨x, a, rfl⟩ := List.exists_cons_of_ne_nil hne
    rw [List.cons_append, List.cons.injEq] at hu
    obtain ⟨rfl, rfl⟩ := hu
    obtain ⟨v, hv⟩ := hp
    -- What is left of the first occurrence stands where the second one begins.
    simp only [List.cons_append, List.append_assoc, List.cons.injEq, true_and,
      List.append_cancel_left_eq] at hv
    cases u with
    | nil => exact ha (by simp)
    | cons y u =>
      obtain ⟨rfl, -⟩ := List.cons.inj hv
      exact h (by simp)

/-- A search stops at the first occurrence. -/
theorem breakAt?_append (h : c ∉ needle) (ha : ¬ c :: needle <:+: a) :
    breakAt? (c :: needle) (a ++ (c :: needle ++ b)) = some (a, b) := by
  induction a with
  | nil =>
    have h0 : afterLead? (c :: needle) (c :: (needle ++ b)) = some b := afterLead?_append _ _
    simp [breakAt?, h0]
  | cons x a ih =>
    have hp := afterLead?_eq_none_iff.2 (not_prefix_append (b := b) h ha (List.cons_ne_nil x a))
    have ih := ih fun hi => ha (List.infix_cons hi)
    rw [List.cons_append] at hp ⊢
    rw [breakAt?, hp, ih]
    rfl

/-- A search for one character stops at the first one. -/
theorem breakAt?_singleton (h : c ∉ a) (b : List Char) : breakAt? [c] (a ++ c :: b) = some (a, b) :=
  @breakAt?_append [] a b c (by simp) fun hi => h (hi.subset List.mem_cons_self)

/-- What a search finds, and that nothing is found further left. -/
theorem breakAt?_eq_some (hne : needle ≠ []) (h : breakAt? needle s = some (a, b)) :
    s = a ++ (needle ++ b) ∧ ¬ needle <:+: a := by
  induction s generalizing a with
  | nil =>
    rw [breakAt?, if_neg (by simpa using hne)] at h
    cases h
  | cons c s ih =>
    rw [breakAt?] at h
    cases hlead : afterLead? needle (c :: s) with
    | some rest =>
      rw [hlead] at h
      cases h
      refine ⟨?_, by simpa using hne⟩
      rw [List.nil_append]
      exact afterLead?_eq_some_iff.1 hlead
    | none =>
      rw [hlead] at h
      obtain ⟨⟨before, rest⟩, hrest, he⟩ := Option.map_eq_some_iff.1 h
      cases he
      obtain ⟨rfl, hbefore⟩ := ih hrest
      refine ⟨rfl, fun hi => ?_⟩
      rcases List.infix_cons_iff.1 hi with hp | hi
      · exact afterLead?_eq_none_iff.1 hlead (hp.trans (List.prefix_append (c :: before) _))
      · exact hbefore hi

/-- A search for one character finds the first one, or there is none. -/
theorem breakAt?_singleton_eq_some_iff :
    breakAt? [c] s = some (a, b) ↔ s = a ++ c :: b ∧ c ∉ a := by
  constructor
  · intro h
    obtain ⟨hs, ha⟩ := breakAt?_eq_some (by simp) h
    exact ⟨hs, fun hc => ha ((List.singleton_infix_iff c a).2 hc)⟩
  · rintro ⟨rfl, hc⟩
    exact breakAt?_singleton hc b

theorem breakAt?_singleton_eq_none_iff : breakAt? [c] s = none ↔ c ∉ s := by
  rw [breakAt?_eq_none_iff, List.singleton_infix_iff]

/-- No occurrence goes over a character that the text does not have. -/
theorem not_infix_append_cons (hc : c ∉ needle) (ha : ¬ needle <:+: a) (hb : ¬ needle <:+: b) :
    ¬ needle <:+: a ++ c :: b := by
  intro h
  rcases List.infix_append_iff_ne_nil.1 h with h | h | ⟨l, r, -, hr, rfl, -, hp⟩
  · exact ha h
  · rcases List.infix_cons_iff.1 h with h | h
    · rcases List.prefix_cons_iff.1 h with rfl | ⟨t, rfl, -⟩
      · exact hb List.nil_infix
      · exact hc List.mem_cons_self
    · exact hb h
  · rcases List.prefix_cons_iff.1 hp with rfl | ⟨t, rfl, -⟩
    · exact hr rfl
    · exact hc (by simp)

/-- What starts with a character stands behind any text that does not have it. -/
theorem suffix_of_not_mem {a' b' : List Char} (h : a ++ c :: b = a' ++ b') (hc : c ∉ a') :
    c :: b <:+ b' := by
  rcases List.append_eq_append_iff.1 h with ⟨u, hu, hb⟩ | ⟨u, -, hb⟩
  · cases u with
    | nil => exact ⟨[], hb⟩
    | cons d u =>
      obtain ⟨rfl, -⟩ := List.cons.inj hb
      exact absurd (by rw [hu]; simp) hc
  · exact ⟨u, hb.symm⟩

/-! ## Pieces between marks -/

theorem splitAt_ne_nil (mark : Char) (s : List Char) : splitAt mark s ≠ [] := by
  cases s with
  | nil => simp [splitAt]
  | cons c s =>
    rw [splitAt]
    split
    · simp
    · split <;> simp

theorem splitAt_of_not_mem (h : mark ∉ a) : splitAt mark a = [a] := by
  induction a with
  | nil => rfl
  | cons c a ih =>
    obtain ⟨hc, ha⟩ := not_or.1 (mt List.mem_cons.2 h)
    rw [splitAt, if_neg (Ne.symm hc), ih ha]

/-- A mark parts the pieces before it from the pieces behind it. -/
theorem splitAt_append_cons (mark : Char) (a s : List Char) :
    splitAt mark (a ++ mark :: s) = splitAt mark a ++ splitAt mark s := by
  induction a with
  | nil => simp [splitAt]
  | cons c a ih =>
    rw [List.cons_append, splitAt, splitAt, ih]
    split
    · rfl
    · obtain ⟨p, ps, hp⟩ := List.exists_cons_of_ne_nil (splitAt_ne_nil mark a)
      simp [hp]

theorem length_splitAt (mark : Char) (s : List Char) :
    (splitAt mark s).length = s.count mark + 1 := by
  induction s with
  | nil => rfl
  | cons c s ih =>
    obtain ⟨p, ps, hp⟩ := List.exists_cons_of_ne_nil (splitAt_ne_nil mark s)
    rw [hp] at ih
    rw [splitAt, hp]
    split
    · next h => rw [h, List.count_cons_self, List.length_cons, ih]
    · next h => rw [List.count_cons_of_ne h, List.length_cons, ← ih, List.length_cons]

/-! ## Texts joined by a mark -/

/-- Texts with the mark in front of each. -/
def marked (mark : Char) (pieces : List (List Char)) : List Char := pieces.flatMap (mark :: ·)

theorem marked_cons (mark : Char) (piece : List Char) (pieces : List (List Char)) :
    marked mark (piece :: pieces) = mark :: (piece ++ marked mark pieces) := rfl

theorem marked_append (mark : Char) (pieces pieces' : List (List Char)) :
    marked mark (pieces ++ pieces') = marked mark pieces ++ marked mark pieces' :=
  List.flatMap_append

theorem intercalate_cons (mark : Char) (piece : List Char) (pieces : List (List Char)) :
    List.intercalate [mark] (piece :: pieces) = piece ++ marked mark pieces := by
  induction pieces generalizing piece with
  | nil => simp [marked]
  | cons next pieces ih =>
    rw [List.intercalate_cons_cons, ih, marked_cons, List.append_assoc, List.singleton_append]

theorem mem_intercalate {pieces : List (List Char)}
    (h : c ∈ List.intercalate [mark] pieces) : c = mark ∨ ∃ p ∈ pieces, c ∈ p := by
  cases pieces with
  | nil => cases h
  | cons piece pieces =>
    rw [intercalate_cons, List.mem_append] at h
    rcases h with h | h
    · exact .inr ⟨piece, List.mem_cons_self, h⟩
    · obtain ⟨p, hp, h⟩ := List.mem_flatMap.1 h
      rcases List.mem_cons.1 h with rfl | h
      · exact .inl rfl
      · exact .inr ⟨p, List.mem_cons_of_mem _ hp, h⟩

/-- The pieces of joined texts are these texts. -/
theorem splitAt_intercalate {pieces : List (List Char)} (hne : pieces ≠ [])
    (h : ∀ p ∈ pieces, mark ∉ p) : splitAt mark (List.intercalate [mark] pieces) = pieces := by
  induction pieces with
  | nil => exact absurd rfl hne
  | cons piece pieces ih =>
    obtain ⟨hpiece, hpieces⟩ := List.forall_mem_cons.1 h
    cases pieces with
    | nil => rw [List.intercalate_singleton, splitAt_of_not_mem hpiece]
    | cons next pieces =>
      rw [List.intercalate_cons_cons, List.append_assoc, List.singleton_append,
        splitAt_append_cons, splitAt_of_not_mem hpiece, ih (List.cons_ne_nil _ _) hpieces,
        List.singleton_append]

/-- The pieces of a text, joined again, are the text. -/
theorem intercalate_splitAt (mark : Char) (s : List Char) :
    List.intercalate [mark] (splitAt mark s) = s := by
  induction s with
  | nil => exact List.intercalate_singleton
  | cons c s ih =>
    obtain ⟨p, ps, hp⟩ := List.exists_cons_of_ne_nil (splitAt_ne_nil mark s)
    rw [hp, intercalate_cons] at ih
    rw [splitAt, hp]
    by_cases hc : c = mark
    · rw [if_pos hc, intercalate_cons, marked_cons, ih, hc, List.nil_append]
    · rw [if_neg hc, intercalate_cons, List.cons_append, ih]

theorem not_mem_of_mem_splitAt {p : List Char} (h : p ∈ splitAt mark s) : mark ∉ p := by
  induction s generalizing p with
  | nil =>
    obtain rfl := List.mem_singleton.1 h
    exact List.not_mem_nil
  | cons c s ih =>
    obtain ⟨q, qs, hq⟩ := List.exists_cons_of_ne_nil (splitAt_ne_nil mark s)
    rw [splitAt, hq] at h
    rw [hq] at ih
    by_cases hc : c = mark
    · rw [if_pos hc] at h
      rcases List.mem_cons.1 h with rfl | h
      · exact List.not_mem_nil
      · exact ih h
    · rw [if_neg hc] at h
      rcases List.mem_cons.1 h with rfl | h
      · intro hmem
        rcases List.mem_cons.1 hmem with rfl | hmem
        · exact hc rfl
        · exact ih List.mem_cons_self hmem
      · exact ih (List.mem_cons_of_mem _ h)

/-- No occurrence goes over a mark that joins two texts. -/
theorem not_infix_intercalate {pieces : List (List Char)} (hc : mark ∉ needle) (hne : needle ≠ [])
    (h : ∀ p ∈ pieces, ¬ needle <:+: p) : ¬ needle <:+: List.intercalate [mark] pieces := by
  induction pieces with
  | nil => simpa using hne
  | cons piece pieces ih =>
    obtain ⟨hpiece, hpieces⟩ := List.forall_mem_cons.1 h
    cases pieces with
    | nil => rwa [List.intercalate_singleton]
    | cons next pieces =>
      rw [List.intercalate_cons_cons, List.append_assoc, List.singleton_append]
      exact not_infix_append_cons hc hpiece (ih hpieces)

end Reflow.Text
