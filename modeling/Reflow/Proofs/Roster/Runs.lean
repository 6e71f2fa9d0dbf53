import Reflow.Proofs.Roster.Recipes

/-!
# Runs of a roster

A roster hires a painter at the first request that succeeds, and keeps it until the subject gets
another recipe. What a recipe gives may change from one request to the next, so a run has steps in
which a recipe turns to something else.

* `Step`, `after`, `following`: the steps of a run.
* `Gets`: a request is answered by the painter at work, or by a trial of the recipe. `trials`: the
  trials that the requests of a run make.
* `IsStaffed`: who is at work has a recipe.
* `Standing`: since a subject got its recipe, every trial failed, or the last one hired the painter
  that is at work. Steps that do not register the subject keep this (`Standing.after`), and so does
  a run of them (`Standing.following`).
* `Agrees`: two rosters are the same as far as one subject goes, up to the numbers of the hires.
* `get_memoises`: what a request gets after any run.
-/

namespace Reflow.Roster

/-- A step of a run. -/
inductive Step where
  | register (subject : String) (recipe : Recipe)
  /-- The recipe that a subject has gives something else from now on. -/
  | turn (subject : String) (recipe : Recipe)
  | get (subject : String)

/-- The subject that a step is about. -/
def Step.subject : Step → String
  | register subject _ => subject
  | turn subject _ => subject
  | get subject => subject

/-- The roster whose recipe of a subject, if there is one, gives something else. A painter that is
at work stays. -/
def turn (r : Roster) (subject : String) (recipe : Recipe) : Roster :=
  { r with recipes := r.recipes.map fun e => (e.1, if e.1 = subject then recipe else e.2) }

/-- The roster after a step. -/
def after (r : Roster) : Step → Roster
  | .register subject recipe => r.register subject recipe
  | .turn subject recipe => r.turn subject recipe
  | .get subject => (r.get subject).2

/-- The roster after steps in their order. -/
def following (r : Roster) (steps : List Step) : Roster := steps.foldl after r

/-- What the recipe of a subject gives after a step, if it gave `recipe` before. -/
def Step.gives (subject : String) (recipe : Recipe) : Step → Recipe
  | register name new => if subject = name then new else recipe
  | turn name new => if subject = name then new else recipe
  | get _ => recipe

/-- The trial that a step makes of a subject's recipe: a request does if nobody is at work. -/
def Step.trial (r : Roster) (subject : String) (recipe : Recipe) : Step → List Recipe
  | register _ _ => []
  | turn _ _ => []
  | get name => if subject = name ∧ r.isAtWork subject = false then [recipe] else []

/-- The trials that a run makes of a subject's recipe, which gives `recipe` at first. -/
def trials (r : Roster) (subject : String) (recipe : Recipe) : List Step → List Recipe
  | [] => []
  | step :: steps => step.trial r subject recipe ++
      (r.after step).trials subject (step.gives subject recipe) steps

variable {r r' : Roster} {subject name : String} {recipe : Recipe} {hire : Hire} {step : Step}
  {steps before since later : List Step} {log : List Recipe} {count : Nat}

theorem following_cons (r : Roster) (step : Step) (steps : List Step) :
    r.following (step :: steps) = (r.after step).following steps := rfl

theorem following_append (r : Roster) (before since : List Step) :
    r.following (before ++ since) = (r.following before).following since := List.foldl_append

/-! ## Requests -/

/-- What a request for the painter of a subject comes to, with the roster after it: the painter at
work, or the outcome of a trial of the recipe if there is one. -/
inductive Gets (r : Roster) (subject : String) : Except Fault (Option Hire) × Roster → Prop
  | held {hire : Hire} (hh : r.hires.lookup subject = some hire) :
      Gets r subject (.ok (some hire), r)
  | unknown (hh : r.hires.lookup subject = none) (hr : r.recipes.lookup subject = none) :
      Gets r subject (.ok none, r)
  | failed {fault : Fault} (hh : r.hires.lookup subject = none)
      (hr : r.recipes.lookup subject = some (.error fault)) : Gets r subject (.error fault, r)
  | hired {painter : Painter} (hh : r.hires.lookup subject = none)
      (hr : r.recipes.lookup subject = some (.ok painter)) :
      Gets r subject (.ok (some ⟨r.hired, painter⟩),
        { r with hires := r.hires ++ [(subject, ⟨r.hired, painter⟩)], hired := r.hired + 1 })

theorem gets_get (r : Roster) (subject : String) : r.Gets subject (r.get subject) := by
  unfold get
  split
  · next hh => exact .held hh
  · next hh hr => exact .unknown hh hr
  · next hh hr => exact .failed hh hr
  · next hh hr => exact .hired hh hr

/-- The painter at work is who a request gets. -/
theorem get_of_held (h : r.hires.lookup subject = some hire) :
    r.get subject = (.ok (some hire), r) := by
  rw [get, h]

/-- A request that fails changes nothing. -/
theorem get_of_error {fault : Fault} (h : (r.get subject).1 = .error fault) :
    (r.get subject).2 = r := by
  have hgets := r.gets_get subject
  generalize r.get subject = answer at h hgets
  cases hgets with
  | held hh => rfl
  | unknown hh hr => rfl
  | failed hh hr => rfl
  | hired hh hr => cases h

/-- Who a request gets is at work from then on. Painters of other subjects are not concerned. -/
theorem lookup_hires_get (r : Roster) (name subject : String) :
    (r.get name).2.hires.lookup subject =
      if subject = name then (r.get name).1.toOption.join else r.hires.lookup subject := by
  have hgets := r.gets_get name
  generalize r.get name = answer at hgets
  by_cases he : subject = name
  · subst he
    rw [if_pos rfl]
    cases hgets with
    | held hh => exact hh
    | unknown hh hr => exact hh
    | failed hh hr => exact hh
    | hired hh hr =>
      rw [List.lookup_append, hh, List.lookup_cons, beq_self_eq_true]
      rfl
  · rw [if_neg he]
    cases hgets with
    | held hh => rfl
    | unknown hh hr => rfl
    | failed hh hr => rfl
    | hired hh hr =>
      rw [List.lookup_append, List.lookup_cons, beq_eq_false_iff_ne.2 he, List.lookup_nil,
        Option.or_none]

theorem hired_le_get (r : Roster) (name : String) : r.hired ≤ (r.get name).2.hired := by
  have hgets := r.gets_get name
  generalize r.get name = answer at hgets
  cases hgets with
  | held hh => exact Nat.le_refl _
  | unknown hh hr => exact Nat.le_refl _
  | failed hh hr => exact Nat.le_refl _
  | hired hh hr => exact Nat.le_succ _

theorem lookup_recipes_turn (r : Roster) (name subject : String) (recipe : Recipe) :
    (r.turn name recipe).recipes.lookup subject =
      if subject = name then (r.recipes.lookup subject).map fun _ => recipe
      else r.recipes.lookup subject := by
  show (r.recipes.map fun e => (e.1, if e.1 = name then recipe else e.2)).lookup subject = _
  induction r.recipes with
  | nil => simp
  | cons e recipes ih =>
    rw [List.map_cons, List.lookup_cons, List.lookup_cons]
    cases hs : subject == e.1 with
    | false => exact ih
    | true =>
      rw [← eq_of_beq hs]
      by_cases hn : subject = name
      · rw [if_pos hn, if_pos hn]
        rfl
      · rw [if_neg hn, if_neg hn]

/-! ## What steps change -/

/-- Only a registration makes a recipe for a subject that has none. -/
theorem isSome_recipe_after (r : Roster) (step : Step) (subject : String) :
    ((r.after step).recipes.lookup subject).isSome ↔
      (r.recipes.lookup subject).isSome ∨ ∃ recipe, step = .register subject recipe := by
  cases step with
  | register name recipe =>
    rw [after, lookup_recipes_register]
    split
    · next he => simp [he]
    · next he => simp [Ne.symm he]
  | turn name recipe =>
    rw [after, lookup_recipes_turn]
    split <;> simp
  | get name =>
    rw [after, recipes_get]
    simp

/-- A subject has a recipe if it was registered. -/
theorem isSome_recipe_following (r : Roster) (steps : List Step) (subject : String) :
    ((r.following steps).recipes.lookup subject).isSome ↔
      (r.recipes.lookup subject).isSome ∨ ∃ recipe, .register subject recipe ∈ steps := by
  induction steps generalizing r with
  | nil => simp [following]
  | cons step steps ih =>
    rw [following_cons, ih, isSome_recipe_after, or_assoc, ← exists_or]
    simp only [List.mem_cons, eq_comm]

/-- Every subject with a painter at work has a recipe. -/
def IsStaffed (r : Roster) : Prop :=
  ∀ subject, (r.hires.lookup subject).isSome → (r.recipes.lookup subject).isSome

theorem IsStaffed.after (h : r.IsStaffed) (step : Step) : (r.after step).IsStaffed := by
  intro subject hs
  rw [isSome_recipe_after]
  cases step with
  | register name recipe =>
    rw [Roster.after, lookup_hires_register] at hs
    split at hs
    · cases hs
    · exact .inl (h subject hs)
  | turn name recipe => exact .inl (h subject hs)
  | get name =>
    rw [Roster.after, lookup_hires_get] at hs
    split at hs
    · next he =>
      subst he
      -- Nobody is hired without a recipe.
      have hgets := r.gets_get subject
      generalize r.get subject = answer at hs hgets
      cases hgets with
      | held hh => exact .inl (h subject (by rw [hh]; rfl))
      | unknown hh hr => cases hs
      | failed hh hr => cases hs
      | hired hh hr => exact .inl (by rw [hr]; rfl)
    · exact .inl (h subject hs)

theorem IsStaffed.following (h : r.IsStaffed) (steps : List Step) : (r.following steps).IsStaffed :=
  List.foldlRecOn (motive := IsStaffed) steps Roster.after h fun _ h step _ => h.after step

theorem isStaffed_empty : empty.IsStaffed := fun _ h => h

theorem mem_sorted {names : List String} : name ∈ sorted names ↔ name ∈ names :=
  List.mem_mergeSort

theorem IsStaffed.atWork_subset (h : r.IsStaffed) (hname : name ∈ r.atWork) :
    name ∈ r.subjects := by
  rw [atWork, mem_sorted] at hname
  rw [subjects, mem_sorted]
  by_contra hnot
  have hrecipe := h name (Option.isSome_iff_ne_none.2 fun hnone =>
    lookup_eq_none_iff_not_mem.1 hnone hname)
  rw [lookup_eq_none_iff_not_mem.2 hnot] at hrecipe
  cases hrecipe

/-! ## Trials of a recipe -/

theorem trials_append (r : Roster) (subject : String) (recipe : Recipe) (before since : List Step) :
    r.trials subject recipe (before ++ since) = r.trials subject recipe before ++
      (r.following before).trials subject (before.foldl (Step.gives subject) recipe) since := by
  induction before generalizing r recipe with
  | nil => rfl
  | cons step before ih =>
    rw [List.cons_append, trials, trials, ih, List.append_assoc, following_cons, List.foldl_cons]

/-- Trials that all failed. -/
def AllFailed (log : List Recipe) : Prop := ∀ trial ∈ log, ∃ fault, trial = .error fault

/-- Where a subject stands since it got its recipe, when `count` painters had been hired: what the
recipe gives now, and what came of the trials. All of them failed, or the last one hired the painter
that is at work. -/
structure Standing (count : Nat) (subject : String) (r : Roster) (recipe : Recipe)
    (log : List Recipe) : Prop where
  recipe : r.recipes.lookup subject = some recipe
  counted : count ≤ r.hired
  vacant : r.hires.lookup subject = none → AllFailed log
  held : ∀ hire, r.hires.lookup subject = some hire →
    count ≤ hire.serial ∧ ∃ failures, AllFailed failures ∧ log = failures ++ [.ok hire.painter]

theorem standing_register (r : Roster) (subject : String) (recipe : Recipe) :
    Standing r.hired subject (r.register subject recipe) recipe [] where
  recipe := by rw [lookup_recipes_register, if_pos rfl]
  counted := Nat.le_refl _
  vacant _ := List.forall_mem_nil _
  held hire h := by
    rw [lookup_hires_register, if_pos rfl] at h
    cases h

/-- A request for the subject's painter finds one at work or tries the recipe. -/
theorem Standing.get (h : Standing count subject r recipe log) :
    Standing count subject (r.get subject).2 recipe
      (log ++ (Step.get subject).trial r subject recipe) := by
  have hgets := r.gets_get subject
  generalize r.get subject = answer at hgets
  cases hgets with
  | held hh =>
    have htrial : (Step.get subject).trial r subject recipe = [] :=
      if_neg (by simp [isAtWork, hh])
    rw [htrial, List.append_nil]
    exact h
  | unknown hh hr =>
    have hrecipe := h.recipe
    rw [hr] at hrecipe
    cases hrecipe
  | failed hh hr =>
    have hrecipe := h.recipe
    rw [hr] at hrecipe
    cases hrecipe
    have htrial {fault : Fault} : (Step.get subject).trial r subject (.error fault) =
        [.error fault] := if_pos ⟨rfl, by rw [isAtWork, hh]; rfl⟩
    rw [htrial]
    refine ⟨hr, h.counted, fun _ trial ht => ?_, fun hire hheld => ?_⟩
    · rcases List.mem_append.1 ht with ht | ht
      · exact h.vacant hh trial ht
      · exact ⟨_, List.mem_singleton.1 ht⟩
    · rw [hh] at hheld
      cases hheld
  | hired hh hr =>
    have hrecipe := h.recipe
    rw [hr] at hrecipe
    cases hrecipe
    have htrial {painter : Painter} : (Step.get subject).trial r subject (.ok painter) =
        [.ok painter] := if_pos ⟨rfl, by rw [isAtWork, hh]; rfl⟩
    have hlookup {new : Hire} : (r.hires ++ [(subject, new)]).lookup subject = some new := by
      rw [List.lookup_append, hh, List.lookup_cons_self, Option.none_or]
    rw [htrial]
    refine ⟨hr, Nat.le_succ_of_le h.counted, fun hnone => ?_, fun hire hheld => ?_⟩
    · rw [hlookup] at hnone
      cases hnone
    · rw [hlookup] at hheld
      cases hheld
      exact ⟨h.counted, log, h.vacant hh, rfl⟩

theorem Standing.after (h : Standing count subject r recipe log)
    (hstep : ∀ new, step ≠ .register subject new) :
    Standing count subject (r.after step) (step.gives subject recipe)
      (log ++ step.trial r subject recipe) := by
  cases step with
  | register name new =>
    have hne : subject ≠ name := fun he => hstep new (he ▸ rfl)
    rw [Step.gives, if_neg hne, Step.trial, List.append_nil]
    refine ⟨?_, h.counted, fun hnone => h.vacant ?_, fun hire hheld => h.held hire ?_⟩
    · rw [Roster.after, lookup_recipes_register, if_neg hne, h.recipe]
    · rwa [Roster.after, lookup_hires_register, if_neg hne] at hnone
    · rwa [Roster.after, lookup_hires_register, if_neg hne] at hheld
  | turn name new =>
    rw [Step.trial, List.append_nil]
    refine ⟨?_, h.counted, h.vacant, h.held⟩
    rw [Roster.after, lookup_recipes_turn, Step.gives, h.recipe]
    split <;> rfl
  | get name =>
    by_cases he : subject = name
    · subst he
      exact h.get
    · rw [Step.gives, Step.trial, if_neg fun hboth => he hboth.1, List.append_nil]
      refine ⟨?_, h.counted.trans (hired_le_get r name), fun hnone => h.vacant ?_,
        fun hire hheld => h.held hire ?_⟩
      · rw [Roster.after, recipes_get, h.recipe]
      · rwa [Roster.after, lookup_hires_get, if_neg he] at hnone
      · rwa [Roster.after, lookup_hires_get, if_neg he] at hheld

theorem Standing.following (h : Standing count subject r recipe log)
    (hsteps : ∀ new, .register subject new ∉ steps) :
    Standing count subject (r.following steps) (steps.foldl (Step.gives subject) recipe)
      (log ++ r.trials subject recipe steps) := by
  induction steps generalizing r recipe log with
  | nil => rwa [trials, List.append_nil]
  | cons step steps ih =>
    have hstep (new : Recipe) : step ≠ .register subject new := fun he =>
      hsteps new (he ▸ List.mem_cons_self)
    rw [following_cons, List.foldl_cons, trials, ← List.append_assoc]
    exact ih (h.after hstep) fun new hmem => hsteps new (List.mem_cons_of_mem _ hmem)

/-- A painter at work stays and is not hired again, as long as the subject is not registered. -/
theorem held_following (h : r.hires.lookup subject = some hire) (recipe : Recipe)
    (hsteps : ∀ new, .register subject new ∉ steps) :
    (r.following steps).hires.lookup subject = some hire ∧ r.trials subject recipe steps = [] := by
  induction steps generalizing r recipe with
  | nil => exact ⟨h, rfl⟩
  | cons step steps ih =>
    obtain ⟨hheld, htrial⟩ : (r.after step).hires.lookup subject = some hire ∧
        step.trial r subject recipe = [] := by
      cases step with
      | register name new =>
        have hne : subject ≠ name := fun he => hsteps new (he ▸ List.mem_cons_self)
        rw [Roster.after, lookup_hires_register, if_neg hne]
        exact ⟨h, rfl⟩
      | turn name new => exact ⟨h, rfl⟩
      | get name =>
        refine ⟨?_, if_neg fun hboth => ?_⟩
        · rw [Roster.after, lookup_hires_get]
          split
          · next he => rw [← he, get_of_held h]; rfl
          · exact h
        · rw [isAtWork, h] at hboth
          cases hboth.2
    rw [following_cons, trials, htrial, List.nil_append]
    exact ih hheld _ fun new hmem => hsteps new (List.mem_cons_of_mem _ hmem)

/-! ## Other subjects -/

/-- Two rosters with the same recipe for a subject, and the same painter of it if one is at work.
The numbers of the hires may differ. -/
structure Agrees (subject : String) (r r' : Roster) : Prop where
  recipe : r.recipes.lookup subject = r'.recipes.lookup subject
  painter : (r.hires.lookup subject).map Hire.painter = (r'.hires.lookup subject).map Hire.painter

/-- A request gets the painter at work, or else who the recipe gives. -/
theorem painter_get (r : Roster) (subject : String) :
    (r.get subject).1.map (·.map Hire.painter) =
      ((r.hires.lookup subject).map Hire.painter).elim (r.painter? subject) (.ok ∘ some) := by
  have hgets := r.gets_get subject
  generalize r.get subject = answer at hgets
  cases hgets with
  | held hh => rw [hh]; rfl
  | unknown hh hr => rw [hh, painter?, hr]; rfl
  | failed hh hr => rw [hh, painter?, hr]; rfl
  | hired hh hr => rw [hh, painter?, hr]; rfl

theorem Agrees.painter_get (h : Agrees subject r r') :
    (r.get subject).1.map (·.map Hire.painter) = (r'.get subject).1.map (·.map Hire.painter) := by
  rw [Roster.painter_get, Roster.painter_get, h.painter, painter?, painter?, h.recipe]

theorem agrees_after_of_ne (h : subject ≠ step.subject) : Agrees subject (r.after step) r := by
  cases step with
  | register name new =>
    have hne : subject ≠ name := h
    constructor
    · rw [after, lookup_recipes_register, if_neg hne]
    · rw [after, lookup_hires_register, if_neg hne]
  | turn name new =>
    have hne : subject ≠ name := h
    constructor
    · rw [after, lookup_recipes_turn, if_neg hne]
    · rfl
  | get name =>
    have hne : subject ≠ name := h
    constructor
    · rw [after, recipes_get]
    · rw [after, lookup_hires_get, if_neg hne]

theorem Agrees.after (h : Agrees subject r r') (step : Step) :
    Agrees subject (r.after step) (r'.after step) := by
  cases step with
  | register name new =>
    constructor
    · rw [Roster.after, Roster.after, lookup_recipes_register, lookup_recipes_register, h.recipe]
    · rw [Roster.after, Roster.after, lookup_hires_register, lookup_hires_register]
      split
      · rfl
      · exact h.painter
  | turn name new =>
    constructor
    · rw [Roster.after, Roster.after, lookup_recipes_turn, lookup_recipes_turn, h.recipe]
    · exact h.painter
  | get name =>
    constructor
    · rw [Roster.after, Roster.after, recipes_get, recipes_get, h.recipe]
    · rw [Roster.after, Roster.after, lookup_hires_get, lookup_hires_get]
      split
      · next he =>
        subst he
        have hjoin (answer : Except Fault (Option Hire)) :
            answer.toOption.join.map Hire.painter =
              (answer.map (·.map Hire.painter)).toOption.join := by
          cases answer <;> rfl
        rw [hjoin, hjoin, h.painter_get]
      · exact h.painter

/-- Of a run, only the steps about a subject matter to it. -/
theorem Agrees.following (h : Agrees subject r r') (steps : List Step) :
    Agrees subject (r.following steps) (r'.following (steps.filter (·.subject = subject))) := by
  induction steps generalizing r r' with
  | nil => exact h
  | cons step steps ih =>
    rw [List.filter_cons]
    split
    · exact ih (h.after step)
    · next hs =>
      have hne : subject ≠ step.subject := fun he => hs (decide_eq_true he.symm)
      have hother : Agrees subject (r.after step) r := agrees_after_of_ne hne
      exact ih ⟨hother.recipe.trans h.recipe, hother.painter.trans h.painter⟩

/-! ## Runs from an empty roster -/

/-- What a roster without recipes comes to by any run. Who is at work has a recipe. A request gets
nobody exactly if the subject was never registered, and changes nothing if it fails. A painter that
it gets was hired after the subject was registered last, by the only trial of that recipe that did
not fail, and stays at work up to the next registration of the subject. Steps about other subjects
make no difference to the painter that it gets. -/
theorem get_memoises (steps : List Step) (subject : String) :
    let r := empty.following steps
    (∀ name ∈ r.atWork, name ∈ r.subjects) ∧
    ((r.get subject).1 = .ok none ↔ ∀ recipe, .register subject recipe ∉ steps) ∧
    (∀ fault, (r.get subject).1 = .error fault → (r.get subject).2 = r) ∧
    (∀ before recipe since hire, steps = before ++ .register subject recipe :: since →
      (∀ new, .register subject new ∉ since) → (r.get subject).1 = .ok (some hire) →
      let opened := (empty.following before).register subject recipe
      opened.hired ≤ hire.serial ∧ ∃ failures, AllFailed failures ∧
        ∀ later, (∀ new, .register subject new ∉ later) →
          (((r.get subject).2.following later).get subject).1 = .ok (some hire) ∧
          opened.trials subject recipe (since ++ .get subject :: later) =
            failures ++ [.ok hire.painter]) ∧
    (r.get subject).1.map (·.map Hire.painter) =
      ((empty.following (steps.filter (·.subject = subject))).get subject).1.map
        (·.map Hire.painter) := by
  intro r
  have hstaffed : r.IsStaffed := isStaffed_empty.following steps
  refine ⟨fun name => hstaffed.atWork_subset, ?_, fun fault => get_of_error, ?_,
    (Agrees.following ⟨rfl, rfl⟩ steps).painter_get⟩
  · have hregistered : (r.recipes.lookup subject).isSome ↔ ∃ recipe, .register subject recipe ∈ steps :=
      (isSome_recipe_following empty steps subject).trans (by simp [empty])
    rw [← not_exists, ← hregistered]
    have hgets := r.gets_get subject
    generalize r.get subject = answer at hgets
    cases hgets with
    | held hh =>
      have := hstaffed subject (by rw [hh]; rfl)
      simp [this]
    | unknown hh hr => simp [hr]
    | failed hh hr => simp [hr]
    | hired hh hr => simp [hr]
  · rintro before recipe since hire hsteps hsince hget opened
    have hr : r = opened.following since := by
      rw [show r = _ from congrArg empty.following hsteps, following_append, following_cons]
      rfl
    have hstanding : Standing opened.hired subject (r.get subject).2
        (since.foldl (Step.gives subject) recipe)
        (opened.trials subject recipe since ++ (Step.get subject).trial r subject
          (since.foldl (Step.gives subject) recipe)) := by
      rw [hr]
      exact ((standing_register (empty.following before) subject recipe).following hsince).get
    have hheld : (r.get subject).2.hires.lookup subject = some hire := by
      rw [lookup_hires_get, if_pos rfl, hget]
      rfl
    obtain ⟨hfresh, failures, hfailed, hlog⟩ := hstanding.held hire hheld
    refine ⟨hfresh, failures, hfailed, fun later hlater => ?_⟩
    obtain ⟨hstays, hnone⟩ := held_following hheld (since.foldl (Step.gives subject) recipe) hlater
    refine ⟨by rw [get_of_held hstays], ?_⟩
    rw [trials_append, trials, ← hr, ← List.append_assoc, hlog]
    exact (congrArg _ hnone).trans (List.append_nil _)

/-- A recipe that fails once: the first request changes nothing, the second one hires the painter,
and another subject's painter comes and goes without disturbing that one. -/
theorem get_memoises_second_trial :
    let fault : Fault := ⟨"ValueError", "boom"⟩
    let painter := Painter.ofSubject .flexFragility true
    let steps : List Step := [
      .register "a" (.error fault), .get "a", .turn "a" (.ok painter),
      .register "b" (.ok (.ofSubject .gridRigidity false)), .get "b"]
    let r := empty.following steps
    (r.get "a").1 = .ok (some ⟨1, painter⟩) ∧
      (((r.get "a").2.following [.register "b" (.error fault), .get "b"]).get "a").1 =
        .ok (some ⟨1, painter⟩) ∧
      ∃ failures, AllFailed failures ∧
        (empty.register "a" (.error fault)).trials "a" (.error fault)
          (steps.tail ++ [.get "a", .register "b" (.error fault), .get "b"]) =
            failures ++ [.ok painter] := by
  intro fault painter steps r
  have hget : (r.get "a").1 = .ok (some ⟨1, painter⟩) := rfl
  obtain ⟨-, -, -, hkept, -⟩ := get_memoises steps "a"
  obtain ⟨-, failures, hfailed, hlater⟩ := hkept [] (.error fault) steps.tail ⟨1, painter⟩ rfl
    (by simp [steps]) hget
  obtain ⟨hsame, htrials⟩ := hlater [.register "b" (.error fault), .get "b"] (by simp)
  exact ⟨hget, hsame, failures, hfailed, htrials⟩

end Reflow.Roster
