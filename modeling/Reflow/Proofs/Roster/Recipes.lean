import Reflow.Roster
import Reflow.Proofs.Lists
import Reflow.Proofs.Painter.Keys

/-!
# Recipes and the painters at work

A painter at work is always the one of the recipe (`IsConsistent`), so that whether a painter is
hired already makes no difference to who paints.

* `painter?_get`: a request for a painter is answered by the recipe.
* `lookup_recipes_standard`: the recipes of the standard roster.
-/

namespace Reflow.Roster

variable {r : Roster} {subject : String}

/-- The painter that the recipe of a subject gives. -/
def painter? (r : Roster) (subject : String) : Except Fault (Option Painter) :=
  match r.recipes.lookup subject with
  | none => .ok none
  | some recipe => recipe.map some

theorem painter?_eq_some_iff {p : Painter} :
    r.painter? subject = .ok (some p) ↔ r.recipes.lookup subject = some (.ok p) := by
  unfold painter?
  cases r.recipes.lookup subject with
  | none => simp
  | some recipe => cases recipe <;> simp [Except.map]

theorem painter?_eq_error_iff {fault : Fault} :
    r.painter? subject = .error fault ↔ r.recipes.lookup subject = some (.error fault) := by
  unfold painter?
  cases r.recipes.lookup subject with
  | none => simp
  | some recipe => cases recipe <;> simp [Except.map]

/-- Every painter at work is the one of the recipe. -/
def IsConsistent (r : Roster) : Prop :=
  ∀ subject hire, r.hires.lookup subject = some hire →
    r.recipes.lookup subject = some (.ok hire.painter)

/-! ## Requests for painters -/

theorem recipes_get (r : Roster) (subject : String) : (r.get subject).2.recipes = r.recipes := by
  unfold get
  split <;> rfl

theorem painter?_get (h : r.IsConsistent) (subject : String) :
    (r.get subject).1.map (·.map Hire.painter) = r.painter? subject := by
  unfold get painter?
  split
  · next hire hh =>
    rw [h subject hire hh]
    rfl
  · next hr => rw [hr]; rfl
  · next fault _ hr => rw [hr]; rfl
  · next painter _ hr => rw [hr]; rfl

theorem IsConsistent.get (h : r.IsConsistent) (subject : String) :
    (r.get subject).2.IsConsistent := by
  unfold Roster.get
  split
  · exact h
  · exact h
  · exact h
  · next painter hh hr =>
    intro other hire ho
    rw [List.lookup_append] at ho
    cases hl : r.hires.lookup other with
    | some held =>
      rw [hl] at ho
      cases ho
      exact h other hire hl
    | none =>
      rw [hl, Option.none_or, List.lookup_cons] at ho
      split at ho
      · next he =>
        cases ho
        rw [eq_of_beq he]
        exact hr
      · cases ho

/-! ## Registrations -/

theorem lookup_recipes_register (r : Roster) (subject other : String) (recipe : Recipe) :
    (r.register subject recipe).recipes.lookup other =
      if other = subject then some recipe else r.recipes.lookup other :=
  lookup_replace r.recipes subject other recipe

theorem lookup_hires_register (r : Roster) (subject other : String) (recipe : Recipe) :
    (r.register subject recipe).hires.lookup other =
      if other = subject then none else r.hires.lookup other := by
  show (r.hires.filter (·.1 ≠ subject)).lookup other = _
  split
  · next he => rw [he, lookup_filter_self]
  · next he => rw [lookup_filter_of_ne he]

theorem IsConsistent.register (h : r.IsConsistent) (subject : String) (recipe : Recipe) :
    (r.register subject recipe).IsConsistent := by
  intro other hire ho
  rw [lookup_hires_register] at ho
  rw [lookup_recipes_register]
  split at ho
  · cases ho
  · next he => rw [if_neg he, h other hire ho]

theorem isConsistent_empty : empty.IsConsistent := fun _ _ h => nomatch h

theorem isConsistent_standard : standard.IsConsistent :=
  List.foldlRecOn Subject.all _ isConsistent_empty fun _ h s _ => h.register s.name _

/-- Subjects that are registered one after the other do not come in each other's way. -/
private theorem lookup_recipes_foldl (subjects : List Subject) (r : Roster) (name : String) :
    (subjects.foldl (fun r s => r.register s.name (.ok (.ofSubject s true))) r).recipes.lookup
        name =
      ((subjects.find? (·.name = name)).map fun s => Except.ok (.ofSubject s true)).or
        (r.recipes.lookup name) := by
  induction subjects generalizing r with
  | nil => rfl
  | cons s subjects ih =>
    rw [List.foldl_cons, ih, lookup_recipes_register, List.find?_cons]
    by_cases hs : s.name = name
    · subst hs
      cases ht : subjects.find? (·.name = s.name) with
      | none => simp
      | some t =>
        have : t = s := Subject.name_injective (by simpa using List.find?_some ht)
        simp [this]
    · simp [hs, Ne.symm hs]

/-- The standard roster knows the subjects and no other names. -/
theorem lookup_recipes_standard (name : String) :
    standard.recipes.lookup name =
      (Subject.ofName? name).map fun s => .ok (.ofSubject s true) := by
  rw [standard, lookup_recipes_foldl, Subject.ofName?]
  exact Option.or_none

theorem painter?_standard (s : Subject) :
    standard.painter? s.name = .ok (some (.ofSubject s true)) := by
  rw [painter?, lookup_recipes_standard, s.ofName?_name]
  rfl

end Reflow.Roster
