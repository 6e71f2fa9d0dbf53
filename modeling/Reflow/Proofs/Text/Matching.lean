import Reflow.Text.Search

/-!
# Places where a pattern matches

A place of a text parts it in two, `s = a ++ b`. A pattern sees the last character of `a`, or what
stands before the whole text if `a` is empty, and all of `b`.

* `firstFrom?_eq_some_iff`, `first?_eq_some_iff`: the leftmost match is at a place that matches, and
  no place further left does.
* `first?_ne_none`, `first?_eq_none_iff`: a search fails exactly if no place matches.
* `lastFrom?_eq_some`, `lastFrom?_ne_none`: the same of the search from the right, as far as it is
  used here: it finds a match if there is one.
-/

namespace Reflow.Text

theorem cut_append (a m b : List Char) : Extent.cut ⟨a.length, m.length⟩ (a ++ (m ++ b)) = m := by
  rw [Extent.cut, List.drop_left, List.take_left]

namespace Pattern

variable {p : Pattern} {before : Option Char} {start n : Nat} {s a b : List Char} {e : Extent}

/-- One character further right, that character is the last one. -/
theorem getLast?_cons_or (c : Char) (a : List Char) (before : Option Char) :
    (c :: a).getLast?.or before = a.getLast?.or (some c) := by
  rw [List.getLast?_cons]
  cases a.getLast? <;> rfl

theorem getLast?_append_cons (a : List Char) (c : Char) (b : List Char) :
    (a ++ c :: b).getLast? = b.getLast?.or (some c) := by
  rw [List.getLast?_append, getLast?_cons_or]

/-! ## From the left -/

theorem firstFrom?_ne_none (h : p (a.getLast?.or before) b = some n) :
    p.firstFrom? before start (a ++ b) ≠ none := by
  induction a generalizing before start with
  | nil =>
    have hb : p before b = some n := h
    cases b with
    | nil => simp [firstFrom?, hb]
    | cons c b => simp [firstFrom?, hb]
  | cons c a ih =>
    rw [getLast?_cons_or] at h
    rw [List.cons_append, firstFrom?]
    split
    · exact fun h => nomatch h
    · exact ih h

theorem firstFrom?_eq_some (h : p.firstFrom? before start s = some e) :
    ∃ a b, s = a ++ b ∧ e.start = start + a.length ∧ p (a.getLast?.or before) b = some e.length ∧
      ∀ a' b', s = a' ++ b' → a'.length < a.length → p (a'.getLast?.or before) b' = none := by
  induction s generalizing before start with
  | nil =>
    obtain ⟨n, hn, rfl⟩ := Option.map_eq_some_iff.1 h
    exact ⟨[], [], rfl, rfl, hn, fun _ _ _ hlt => absurd hlt (Nat.not_lt_zero _)⟩
  | cons c s ih =>
    rw [firstFrom?] at h
    cases hp : p before (c :: s) with
    | some n =>
      rw [hp] at h
      cases h
      exact ⟨[], c :: s, rfl, rfl, hp, fun _ _ _ hlt => absurd hlt (Nat.not_lt_zero _)⟩
    | none =>
      rw [hp] at h
      obtain ⟨a, b, rfl, hstart, hmatch, hleft⟩ := ih h
      refine ⟨c :: a, b, rfl, ?_, ?_, ?_⟩
      · rw [hstart, List.length_cons]
        omega
      · rw [getLast?_cons_or]
        exact hmatch
      · intro a' b' hs hlt
        cases a' with
        | nil =>
          rw [List.nil_append] at hs
          rw [← hs]
          exact hp
        | cons c' a' =>
          rw [List.cons_append, List.cons.injEq] at hs
          obtain ⟨rfl, hs⟩ := hs
          rw [getLast?_cons_or]
          refine hleft a' b' hs ?_
          simp only [List.length_cons] at hlt
          omega

/-- The leftmost match in a text, read as in `firstFrom?`. -/
theorem firstFrom?_eq_some_iff :
    p.firstFrom? before start s = some e ↔
      ∃ a b, s = a ++ b ∧ e.start = start + a.length ∧ p (a.getLast?.or before) b = some e.length ∧
        ∀ a' b', s = a' ++ b' → a'.length < a.length → p (a'.getLast?.or before) b' = none := by
  refine ⟨firstFrom?_eq_some, ?_⟩
  rintro ⟨a, b, hs, hstart, hmatch, hleft⟩
  cases hf : p.firstFrom? before start s with
  | none =>
    rw [hs] at hf
    exact absurd hf (firstFrom?_ne_none hmatch)
  | some e' =>
    obtain ⟨a', b', hs', hstart', hmatch', hleft'⟩ := firstFrom?_eq_some hf
    -- Neither match stands to the left of the other.
    have hle : ¬ a'.length < a.length := fun hlt => by
      rw [hleft a' b' hs' hlt] at hmatch'
      cases hmatch'
    have hge : ¬ a.length < a'.length := fun hlt => by
      rw [hleft' a b hs hlt] at hmatch
      cases hmatch
    obtain ⟨rfl, rfl⟩ := List.append_inj (hs.symm.trans hs') (by omega)
    have hlength : e'.length = e.length := Option.some.inj (hmatch'.symm.trans hmatch)
    obtain ⟨i, l⟩ := e
    obtain ⟨i', l'⟩ := e'
    simp only at hstart hstart' hlength
    rw [hlength, hstart, hstart']

/-- The leftmost match in a text. -/
theorem first?_eq_some_iff :
    p.first? s = some e ↔
      ∃ a b, s = a ++ b ∧ e.start = a.length ∧ p a.getLast? b = some e.length ∧
        ∀ a' b', s = a' ++ b' → a'.length < a.length → p a'.getLast? b' = none := by
  rw [first?, firstFrom?_eq_some_iff]
  simp only [Option.or_none, Nat.zero_add]

theorem first?_ne_none (h : p a.getLast? b = some n) : p.first? (a ++ b) ≠ none := by
  refine firstFrom?_ne_none (n := n) ?_
  rw [Option.or_none]
  exact h

theorem first?_eq_none_iff : p.first? s = none ↔ ∀ a b, s = a ++ b → p a.getLast? b = none := by
  constructor
  · rintro h a b rfl
    cases hp : p a.getLast? b with
    | none => rfl
    | some n => exact absurd h (first?_ne_none hp)
  · intro h
    cases hf : p.first? s with
    | none => rfl
    | some e =>
      obtain ⟨a, b, hs, -, hmatch, -⟩ := first?_eq_some_iff.1 hf
      rw [h a b hs] at hmatch
      cases hmatch

/-- The leftmost match cuts a text in three. -/
theorem exists_append_of_first? (h : p.first? s = some e) :
    ∃ a b, s = a ++ (e.cut s ++ b) ∧ a.length = e.start := by
  obtain ⟨a, b, hs, hstart, -⟩ := first?_eq_some_iff.1 h
  refine ⟨s.take e.start, s.drop e.stop, ?_, ?_⟩
  · rw [Extent.cut, Extent.stop, ← List.drop_drop, List.take_append_drop, List.take_append_drop]
  · rw [List.length_take, hs, List.length_append]
    omega

/-! ## From the right -/

theorem lastFrom?_eq_some (h : p.lastFrom? before start s = some e) :
    ∃ a b, s = a ++ b ∧ e.start = start + a.length ∧
      p (a.getLast?.or before) b = some e.length := by
  induction s generalizing before start with
  | nil =>
    obtain ⟨n, hn, rfl⟩ := Option.map_eq_some_iff.1 h
    exact ⟨[], [], rfl, rfl, hn⟩
  | cons c s ih =>
    rw [lastFrom?, Option.or_eq_some_iff] at h
    rcases h with h | ⟨-, h⟩
    · obtain ⟨a, b, rfl, hstart, hmatch⟩ := ih h
      refine ⟨c :: a, b, rfl, ?_, ?_⟩
      · rw [hstart, List.length_cons]
        omega
      · rw [getLast?_cons_or]
        exact hmatch
    · obtain ⟨n, hn, rfl⟩ := Option.map_eq_some_iff.1 h
      exact ⟨[], c :: s, rfl, rfl, hn⟩

theorem lastFrom?_ne_none (h : p (a.getLast?.or before) b = some n) :
    p.lastFrom? before start (a ++ b) ≠ none := by
  induction a generalizing before start with
  | nil =>
    have hb : p before b = some n := h
    cases b with
    | nil => simp [lastFrom?, hb]
    | cons c b => simp [lastFrom?, hb]
  | cons c a ih =>
    rw [getLast?_cons_or] at h
    rw [List.cons_append, lastFrom?, ne_eq, Option.or_eq_none_iff]
    exact fun hnone => ih h hnone.1

end Pattern

end Reflow.Text
