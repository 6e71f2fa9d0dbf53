import Reflow.Painter

/-!
# The roster of painters

A recipe says how to get the painter of a subject, and may fail. A painter is hired at the first
request for it and stays until the subject gets another recipe.

* `Roster.register` gives a subject a recipe; `Roster.get` gives its painter.
* `Roster.subjects` and `Roster.atWork`: the subjects with a recipe, and those with a painter.
-/

namespace Reflow

/-- How to get a painter. -/
abbrev Recipe := Except Fault Painter

/-- A painter at work, with a number that no other one has. -/
structure Hire where
  serial : Nat
  painter : Painter

/-- The recipes and the painters at work, by subject. -/
structure Roster where
  recipes : List (String × Recipe)
  hires : List (String × Hire)
  hired : Nat

namespace Roster

/-- No recipes and no painters. -/
def empty : Roster := ⟨[], [], 0⟩

/-- The entries without those of a subject. -/
def without {α : Type} (entries : List (String × α)) (subject : String) : List (String × α) :=
  entries.filter (·.1 ≠ subject)

/-- Gives a subject a recipe. The painter it had is dismissed. -/
def register (r : Roster) (subject : String) (recipe : Recipe) : Roster :=
  { r with
    recipes := without r.recipes subject ++ [(subject, recipe)]
    hires := without r.hires subject }

/-- The roster of all subjects, whose painters keep their drawings. -/
def standard : Roster :=
  Subject.all.foldl (fun r s => r.register s.name (.ok (.ofSubject s true))) empty

/-- Whether a subject has a recipe. -/
def supports (r : Roster) (subject : String) : Bool := (r.recipes.lookup subject).isSome

/-- Names in the order of their characters. -/
def sorted (names : List String) : List String := names.mergeSort (fun a b => decide (a ≤ b))

/-- The subjects with a recipe, sorted. -/
def subjects (r : Roster) : List String := sorted (r.recipes.map (·.1))

/-- The subjects with a painter at work, sorted. -/
def atWork (r : Roster) : List String := sorted (r.hires.map (·.1))

/-- Whether the subject's painter is at work. -/
def isAtWork (r : Roster) (subject : String) : Bool := (r.hires.lookup subject).isSome

/-- The painter of a subject, hired if need be. There is none for a subject without a recipe. -/
def get (r : Roster) (subject : String) : Except Fault (Option Hire) × Roster :=
  match r.hires.lookup subject, r.recipes.lookup subject with
  | some hire, _ => (.ok (some hire), r)
  | none, none => (.ok none, r)
  | none, some (.error fault) => (.error fault, r)
  | none, some (.ok painter) =>
    let hire : Hire := ⟨r.hired, painter⟩
    (.ok (some hire), { r with hires := r.hires ++ [(subject, hire)], hired := r.hired + 1 })

end Roster

end Reflow
