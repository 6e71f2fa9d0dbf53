import Reflow.Proofs.Text.Matching

/-!
# Texts cut into matches

The pieces of a text are its matches from left to right and the characters between them.

* `joined_pieces`: the pieces put together are the text.
* `exists_match_of_pieces`: a hit is what the pattern matches at its place.
* `exists_hit_of_match`: no match is passed over. Where the pattern matches, a hit starts or goes on.
* `exists_hits_eq_cons`: the first hit is the first match.
-/

namespace Reflow.Text.Pattern

/-- The characters of a piece. -/
def Piece.text : Piece → List Char
  | .plain c => [c]
  | .hit text => text

/-- The text that pieces make up. -/
def joined (pieces : List Piece) : List Char := pieces.flatMap Piece.text

variable {p : Pattern} {before : Option Char} {s a b t : List Char} {c : Char} {n : Nat}
  {pieces front back : List Piece}

@[simp] theorem joined_nil : joined [] = [] := rfl

@[simp] theorem joined_plain (c : Char) (pieces : List Piece) :
    joined (.plain c :: pieces) = c :: joined pieces := rfl

@[simp] theorem joined_hit (text : List Char) (pieces : List Piece) :
    joined (.hit text :: pieces) = text ++ joined pieces := rfl

theorem piecesFrom_nil (p : Pattern) (before : Option Char) : p.piecesFrom before [] = [] := by
  rw [piecesFrom]

theorem piecesFrom_of_match (h : p before (c :: s) = some (n + 1)) :
    p.piecesFrom before (c :: s) =
      .hit (c :: s.take n) :: p.piecesFrom (c :: s.take n).getLast? (s.drop n) :=
  piecesFrom.eq_2 p before n c s h

theorem piecesFrom_of_no_match (h : ∀ n, p before (c :: s) ≠ some (n + 1)) :
    p.piecesFrom before (c :: s) = .plain c :: p.piecesFrom (some c) s :=
  piecesFrom.eq_3 p before c s h

theorem joined_piecesFrom (p : Pattern) (before : Option Char) (s : List Char) :
    joined (p.piecesFrom before s) = s := by
  induction before, s using piecesFrom.induct p with
  | case1 before => rw [piecesFrom_nil, joined_nil]
  | case2 before n c rest hmatch ih =>
    rw [piecesFrom_of_match hmatch, joined_hit, ih, List.cons_append, List.take_append_drop]
  | case3 before c rest hmatch ih => rw [piecesFrom_of_no_match hmatch, joined_plain, ih]

theorem joined_pieces (p : Pattern) (s : List Char) : joined (p.pieces s) = s :=
  joined_piecesFrom p none s

/-- What stands in front of a place further right starts with what was read already. -/
theorem getLast?_append_or (ht : t ≠ []) (a : List Char) (before : Option Char) :
    (t ++ a).getLast?.or before = a.getLast?.or t.getLast? := by
  obtain ⟨c, hc⟩ := Option.isSome_iff_exists.1 (List.getLast?_isSome.2 ht)
  rw [List.getLast?_append, Option.or_assoc, hc, Option.some_or]

theorem exists_match_of_piecesFrom (h : p.piecesFrom before s = front ++ .hit t :: back) :
    t ≠ [] ∧ ∃ n, p ((joined front).getLast?.or before) (t ++ joined back) = some n ∧
      t = (t ++ joined back).take n := by
  induction before, s using piecesFrom.induct p generalizing front with
  | case1 before => simp [piecesFrom_nil] at h
  | case2 before n c rest hmatch ih =>
    rw [piecesFrom_of_match hmatch] at h
    cases front with
    | nil =>
      obtain ⟨hhit, rfl⟩ := List.cons.inj h
      cases hhit
      have hrest : c :: rest.take n ++ rest.drop n = c :: rest := by
        rw [List.cons_append, List.take_append_drop]
      rw [joined_piecesFrom, hrest]
      exact ⟨List.cons_ne_nil _ _, n + 1, hmatch, rfl⟩
    | cons first front =>
      obtain ⟨rfl, hrest⟩ := List.cons.inj h
      rw [joined_hit, getLast?_append_or (List.cons_ne_nil _ _)]
      exact ih hrest
  | case3 before c rest hmatch ih =>
    rw [piecesFrom_of_no_match hmatch] at h
    cases front with
    | nil => cases (List.cons.inj h).1
    | cons first front =>
      obtain ⟨rfl, hrest⟩ := List.cons.inj h
      rw [joined_plain, getLast?_cons_or]
      exact ih hrest

/-- A hit is what the pattern matches at its place. -/
theorem exists_match_of_pieces (h : p.pieces s = front ++ .hit t :: back) :
    t ≠ [] ∧ ∃ n, p (joined front).getLast? (t ++ joined back) = some n ∧
      t = (t ++ joined back).take n := by
  have hmatch := exists_match_of_piecesFrom h
  rwa [Option.or_none] at hmatch

theorem exists_hit_of_match_from (hs : s = a ++ b) (hb : b ≠ [])
    (h : p (a.getLast?.or before) b = some (n + 1)) :
    ∃ front t back, p.piecesFrom before s = front ++ .hit t :: back ∧
      (joined front).length ≤ a.length ∧ a.length < (joined front).length + t.length := by
  induction before, s using piecesFrom.induct p generalizing a with
  | case1 before => exact absurd (List.append_eq_nil_iff.1 hs.symm).2 hb
  | case2 before m c rest hmatch ih =>
    rw [piecesFrom_of_match hmatch]
    by_cases hlt : a.length < (c :: rest.take m).length
    · exact ⟨[], _, _, rfl, Nat.zero_le _, by rwa [joined_nil, List.length_nil, Nat.zero_add]⟩
    · -- The place is behind the hit, which stands in front of it as a whole.
      have hrest : a ++ b = c :: rest.take m ++ rest.drop m := by
        rw [List.cons_append, List.take_append_drop, hs]
      obtain ⟨a', rfl⟩ := List.prefix_of_prefix_length_le ⟨_, hrest.symm⟩ (List.prefix_append a b)
        (Nat.le_of_not_lt hlt)
      rw [List.append_assoc, List.append_cancel_left_eq] at hrest
      rw [getLast?_append_or (List.cons_ne_nil _ _)] at h
      obtain ⟨front, t, back, hpieces, hle, hlt⟩ := ih hrest.symm h
      refine ⟨.hit (c :: rest.take m) :: front, t, back, by rw [hpieces]; rfl, ?_⟩
      rw [joined_hit, List.length_append, List.length_append]
      omega
  | case3 before c rest hmatch ih =>
    rw [piecesFrom_of_no_match hmatch]
    cases a with
    | nil =>
      rw [List.nil_append] at hs
      rw [← hs] at h
      exact absurd h (hmatch n)
    | cons d a =>
      obtain ⟨rfl, hrest⟩ := List.cons.inj hs
      rw [getLast?_cons_or] at h
      obtain ⟨front, t, back, hpieces, hle, hlt⟩ := ih hrest h
      refine ⟨.plain c :: front, t, back, by rw [hpieces]; rfl, ?_⟩
      rw [joined_plain, List.length_cons, List.length_cons]
      omega

/-- Where the pattern matches, a hit starts or goes on. -/
theorem exists_hit_of_match (hb : b ≠ []) (h : p a.getLast? b = some (n + 1)) :
    ∃ front t back, p.pieces (a ++ b) = front ++ .hit t :: back ∧
      (joined front).length ≤ a.length ∧ a.length < (joined front).length + t.length :=
  exists_hit_of_match_from rfl hb (by rwa [Option.or_none])

/-- In front of a place that no match is left of, there are only plain characters. -/
theorem piecesFrom_append (h : ∀ a' b', a ++ b = a' ++ b' → a'.length < a.length →
    p (a'.getLast?.or before) b' = none) :
    p.piecesFrom before (a ++ b) =
      a.map Piece.plain ++ p.piecesFrom (a.getLast?.or before) b := by
  induction a generalizing before with
  | nil => rfl
  | cons c a ih =>
    have hhere : p before (c :: (a ++ b)) = none := h [] _ rfl (Nat.zero_lt_succ _)
    have hrest : ∀ a' b', a ++ b = a' ++ b' → a'.length < a.length →
        p (a'.getLast?.or (some c)) b' = none := by
      intro a' b' hs hlt
      rw [← getLast?_cons_or c a' before]
      exact h (c :: a') b' (by rw [List.cons_append, List.cons_append, hs]) (Nat.succ_lt_succ hlt)
    rw [List.cons_append, piecesFrom_of_no_match (by simp [hhere]), ih hrest, getLast?_cons_or]
    rfl

/-- The first hit is the first match, if that is not empty. -/
theorem exists_hits_eq_cons {e : Extent} (h : p.first? s = some e) (hcut : e.cut s ≠ []) :
    ∃ rest, p.hits s = e.cut s :: rest := by
  obtain ⟨start, length⟩ := e
  obtain ⟨a, b, rfl, hstart, hmatch, hleft⟩ := first?_eq_some_iff.1 h
  have hstart : start = a.length := hstart
  have hextent : Extent.cut ⟨start, length⟩ (a ++ b) = b.take length := by
    rw [Extent.cut, hstart, List.drop_left]
  rw [hextent] at hcut ⊢
  cases b with
  | nil => simp at hcut
  | cons c b =>
    cases length with
    | zero => simp at hcut
    | succ n =>
      have hpieces : p.pieces (a ++ c :: b) = a.map Piece.plain ++
          .hit (c :: b.take n) :: p.piecesFrom (c :: b.take n).getLast? (b.drop n) := by
        rw [pieces, piecesFrom_append (by simpa using hleft), Option.or_none,
          piecesFrom_of_match hmatch]
      rw [hits, hpieces, List.filterMap_append,
        (List.filterMap_eq_nil_iff (l := a.map Piece.plain)).2 (by simp)]
      exact ⟨_, rfl⟩

end Reflow.Text.Pattern
