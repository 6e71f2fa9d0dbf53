import Reflow.Proofs.Lists

/-!
# Outcomes of work that may fail

An outcome is a result or a failure. Work is done on a list item by item, up to the first failure.

* `bind_eq_ok_iff`, `bind_eq_error_iff`: the outcomes of one work after another.
* `forall₂_of_mapM`: what comes out of work on a list are the results for the items.
* `FirstFails`, `mapM_eq_error_iff`: work on a list fails as it does on the first item that it
  fails on.
* `findM?_eq_some_iff`, `findM?_eq_none_iff`, `findM?_eq_error_iff`: the outcomes of a search.
* `AgreeBy`: two outcomes are the same failure or related results. Work that agrees on every item
  agrees on the list (`AgreeBy.mapM`).
-/

namespace Reflow

/-- What is read off an outcome is read off the result. -/
theorem exists_of_toOption_map {ε α β : Type} {x : Except ε α} {read : α → β} {b : β}
    (h : x.toOption.map read = some b) : ∃ a, x = .ok a ∧ read a = b := by
  cases x with
  | error e => cases h
  | ok a => exact ⟨a, rfl, Option.some.inj h⟩

theorem bind_eq_ok_iff {ε α β : Type} {x : Except ε α} {next : α → Except ε β} {b : β} :
    x >>= next = .ok b ↔ ∃ a, x = .ok a ∧ next a = .ok b := by
  cases x with
  | error e => exact ⟨nofun, fun ⟨_, h, _⟩ => nomatch h⟩
  | ok a => exact ⟨fun h => ⟨a, rfl, h⟩, fun ⟨_, h, hb⟩ => by cases h; exact hb⟩

theorem bind_eq_error_iff {ε α β : Type} {x : Except ε α} {next : α → Except ε β} {e : ε} :
    x >>= next = .error e ↔ x = .error e ∨ ∃ a, x = .ok a ∧ next a = .error e := by
  cases x with
  | error e' =>
    constructor
    · rintro ⟨⟩
      exact .inl rfl
    · rintro (h | ⟨a, h, -⟩)
      · cases h
        rfl
      · cases h
  | ok a =>
    constructor
    · exact fun h => .inr ⟨a, rfl, h⟩
    · rintro (h | ⟨_, h, hb⟩)
      · cases h
      · cases h
        exact hb

/-- Where the result is only turned into another one, nothing fails that did not fail before. -/
theorem bind_pure_eq_error_iff {ε α β : Type} {x : Except ε α} {f : α → β} {e : ε} :
    (x >>= fun a => pure (f a)) = .error e ↔ x = .error e := by
  rw [bind_eq_error_iff, or_iff_left]
  rintro ⟨a, -, h⟩
  cases h

theorem mapError_eq_ok_iff {ε ε' α : Type} {f : ε → ε'} {x : Except ε α} {a : α} :
    x.mapError f = .ok a ↔ x = .ok a := by
  cases x with
  | error e => exact iff_of_false nofun nofun
  | ok b => exact ⟨fun h => by cases h; rfl, fun h => by cases h; rfl⟩

theorem mapError_eq_error_iff {ε ε' α : Type} {f : ε → ε'} {x : Except ε α} {e : ε'} :
    x.mapError f = .error e ↔ ∃ cause, x = .error cause ∧ e = f cause := by
  cases x with
  | error cause =>
    constructor
    · intro h
      exact ⟨cause, rfl, (Except.error.inj h).symm⟩
    · rintro ⟨_, h, rfl⟩
      cases h
      rfl
  | ok a =>
    constructor
    · intro h
      cases h
    · rintro ⟨_, h, -⟩
      cases h

/-- There is a result where nothing fails. -/
theorem exists_eq_ok_iff {ε α : Type} {x : Except ε α} {Fails : ε → Prop}
    (hfails : ∀ e, x = .error e ↔ Fails e) : (∃ a, x = .ok a) ↔ ∀ e, ¬ Fails e := by
  cases x with
  | error e => exact iff_of_false (fun ⟨_, h⟩ => nomatch h) fun h => h e ((hfails e).1 rfl)
  | ok a => exact iff_of_true ⟨a, rfl⟩ fun e he => nomatch (hfails e).2 he

/-! ## Work on lists -/

/-- What comes out of work on a list are the outcomes for its items, in order. -/
theorem forall₂_of_mapM {ε α β : Type} {work : α → Except ε β} {items : List α} {made : List β}
    (h : items.mapM work = .ok made) : List.Forall₂ (fun a b => work a = .ok b) items made := by
  induction items generalizing made with
  | nil =>
    cases h
    exact .nil
  | cons a items ih =>
    rw [List.mapM_cons] at h
    cases ha : work a with
    | error e => rw [ha] at h; cases h
    | ok b =>
      cases hrest : items.mapM work with
      | error e => rw [ha, hrest] at h; cases h
      | ok rest =>
        rw [ha, hrest] at h
        cases h
        exact .cons ha (ih hrest)

/-- What comes out of work on a list is the outcome for one of its items. -/
theorem exists_of_mem_mapM {ε α β : Type} {work : α → Except ε β} {items : List α} {made : List β}
    {b : β} (hmade : items.mapM work = .ok made) (h : b ∈ made) :
    ∃ a ∈ items, work a = .ok b := by
  have hall := forall₂_of_mapM hmade
  clear hmade
  induction hall with
  | nil => cases h
  | cons ha _ ih =>
    rcases List.mem_cons.1 h with rfl | h
    · exact ⟨_, List.mem_cons_self, ha⟩
    · obtain ⟨a, hmem, hwork⟩ := ih h
      exact ⟨a, List.mem_cons_of_mem _ hmem, hwork⟩

/-- Each item of a list that is worked on has its outcome. -/
theorem exists_mem_of_mapM {ε α β : Type} {work : α → Except ε β} {items : List α} {made : List β}
    {a : α} (hmade : items.mapM work = .ok made) (h : a ∈ items) :
    ∃ b ∈ made, work a = .ok b := by
  have hall := forall₂_of_mapM hmade
  clear hmade
  induction hall with
  | nil => cases h
  | cons ha _ ih =>
    rcases List.mem_cons.1 h with rfl | h
    · exact ⟨_, List.mem_cons_self, ha⟩
    · obtain ⟨b, hmem, hwork⟩ := ih h
      exact ⟨b, List.mem_cons_of_mem _ hmem, hwork⟩

/-- The first item that fails does so with the cause. -/
def FirstFails {ε α : Type} (Fails : α → ε → Prop) (items : List α) (cause : ε) : Prop :=
  ∃ before a after, items = before ++ a :: after ∧ (∀ b ∈ before, ∀ e, ¬ Fails b e) ∧
    Fails a cause

/-- Work on a list fails as it does on the first item that it fails on. -/
theorem mapM_eq_error_iff {ε α β : Type} {work : α → Except ε β} {Fails : α → ε → Prop}
    (hfails : ∀ a e, work a = .error e ↔ Fails a e) {items : List α} {e : ε} :
    items.mapM work = .error e ↔ FirstFails Fails items e := by
  induction items with
  | nil => exact iff_of_false nofun not_exists_first_nil
  | cons a items ih =>
    rw [FirstFails, exists_first_cons_iff, ← FirstFails, ← ih, List.mapM_cons, bind_eq_error_iff,
      hfails]
    refine or_congr_right ⟨?_, ?_⟩
    · rintro ⟨b, hb, h⟩
      rcases bind_eq_error_iff.1 h with h | ⟨made, -, h⟩
      · exact ⟨(exists_eq_ok_iff (hfails a)).1 ⟨b, hb⟩, h⟩
      · cases h
    · rintro ⟨hnone, h⟩
      obtain ⟨b, hb⟩ := (exists_eq_ok_iff (hfails a)).2 hnone
      exact ⟨b, hb, bind_eq_error_iff.2 (.inl h)⟩

theorem mapM_eq_ok_map {ε α β : Type} {work : α → Except ε β} {f : α → β} {items : List α}
    (h : ∀ a ∈ items, work a = .ok (f a)) : items.mapM work = .ok (items.map f) := by
  induction items with
  | nil => rfl
  | cons a items ih =>
    obtain ⟨ha, hitems⟩ := List.forall_mem_cons.1 h
    rw [List.mapM_cons, ha, ih hitems]
    rfl

section Search

variable {ε α : Type} {p : α → Except ε Bool} {items : List α} {a : α} {e : ε}

/-- A search that may fail goes on as long as it is told no. -/
theorem findM?_cons (p : α → Except ε Bool) (a : α) (items : List α) :
    (a :: items).findM? p =
      p a >>= fun found => if found then .ok (some a) else items.findM? p := by
  rw [List.findM?]
  refine congrArg (p a >>= ·) (funext fun found => ?_)
  cases found <;> rfl

theorem findM?_eq_some_iff :
    items.findM? p = .ok (some a) ↔ ∃ before b after, items = before ++ b :: after ∧
      (∀ c ∈ before, p c = .ok false) ∧ p b = .ok true ∧ b = a := by
  induction items with
  | nil => exact iff_of_false nofun not_exists_first_nil
  | cons c items ih =>
    rw [exists_first_cons_iff, ← ih, findM?_cons, bind_eq_ok_iff]
    constructor
    · rintro ⟨found, hc, h⟩
      cases found with
      | true =>
        cases h
        exact .inl ⟨hc, rfl⟩
      | false => exact .inr ⟨hc, h⟩
    · rintro (⟨hc, rfl⟩ | ⟨hc, h⟩)
      · exact ⟨true, hc, rfl⟩
      · exact ⟨false, hc, h⟩

theorem findM?_eq_none_iff :
    items.findM? p = .ok none ↔ ∀ c ∈ items, p c = .ok false := by
  induction items with
  | nil => exact ⟨fun _ => List.forall_mem_nil _, fun _ => rfl⟩
  | cons c items ih =>
    rw [List.forall_mem_cons, ← ih, findM?_cons, bind_eq_ok_iff]
    constructor
    · rintro ⟨found, hc, h⟩
      cases found with
      | true => cases h
      | false => exact ⟨hc, h⟩
    · rintro ⟨hc, h⟩
      exact ⟨false, hc, h⟩

/-- A search fails at the first item that fails, if it is told no at all items before. -/
theorem findM?_eq_error_iff :
    items.findM? p = .error e ↔ ∃ before b after, items = before ++ b :: after ∧
      (∀ c ∈ before, p c = .ok false) ∧ p b = .error e := by
  induction items with
  | nil => exact iff_of_false nofun not_exists_first_nil
  | cons c items ih =>
    rw [exists_first_cons_iff, ← ih, findM?_cons, bind_eq_error_iff]
    refine or_congr_right ⟨?_, fun ⟨hc, h⟩ => ⟨false, hc, h⟩⟩
    rintro ⟨found, hc, h⟩
    cases found with
    | true => cases h
    | false => exact ⟨hc, h⟩

end Search

/-- The same failure, or related results. -/
def AgreeBy {ε α β : Type} (R : α → β → Prop) : Except ε α → Except ε β → Prop
  | .error e, .error e' => e = e'
  | .ok a, .ok b => R a b
  | _, _ => False

namespace AgreeBy

variable {ε α β γ : Type} {R : α → β → Prop} {x : Except ε α} {y : Except ε β}

theorem refl {R : α → α → Prop} (h : ∀ a, R a a) (x : Except ε α) : AgreeBy R x x := by
  cases x with
  | error e => exact rfl
  | ok a => exact h a

theorem imp {R' : α → β → Prop} (hR : ∀ a b, R a b → R' a b) (h : AgreeBy R x y) :
    AgreeBy R' x y :=
  match x, y, h with
  | .error _, .error _, h => h
  | .ok _, .ok _, h => hR _ _ h

theorem mapM {items : List γ} {work : γ → Except ε α} {work' : γ → Except ε β}
    (h : ∀ c ∈ items, AgreeBy R (work c) (work' c)) :
    AgreeBy (List.Forall₂ R) (items.mapM work) (items.mapM work') := by
  induction items with
  | nil => exact .nil
  | cons c items ih =>
    obtain ⟨hc, hitems⟩ := List.forall_mem_cons.1 h
    specialize ih hitems
    rw [List.mapM_cons, List.mapM_cons]
    generalize work c = x at hc ⊢
    generalize work' c = y at hc ⊢
    generalize items.mapM work = xs at ih ⊢
    generalize items.mapM work' = ys at ih ⊢
    match x, y, hc with
    | .error _, .error _, rfl => exact rfl
    | .ok _, .ok _, hone =>
      match xs, ys, ih with
      | .error _, .error _, rfl => exact rfl
      | .ok _, .ok _, hrest => exact .cons hone hrest

end AgreeBy

end Reflow
