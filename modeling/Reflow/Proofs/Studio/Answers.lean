import Reflow.Proofs.Painter.Drawings
import Reflow.Proofs.Roster.Recipes
import Reflow.Studio

/-!
# What a studio answers

A faithful studio (`Studio.IsFaithful`) answers as its recipes alone would have it, and stays
faithful: neither the cache, the painters at work, the clock nor the journal can be seen in a
diagram, except for the time it took (`Diagram.shown`).

* `Roster.answer`: the answer by the recipes, without a cache.
* `Studio.IsFaithful.illustrate`: one submission.
* `Studio.IsFaithful.shown_answers`, `Studio.IsFaithful.afterAll`: any number of them.
-/

namespace Reflow

/-- What can be seen of a diagram. -/
structure Diagram.Shown where
  text : String
  width : Nat
  height : Nat
deriving DecidableEq, Repr

/-- The diagram without the time it took. -/
def Diagram.shown (d : Diagram) : Shown := ⟨d.text, d.width, d.height⟩

theorem Diagram.shown_update (d : Diagram) (time : Binary64) :
    { d with milliseconds := time }.shown = d.shown := rfl

theorem Diagram.text_congr {d e : Diagram} (h : d.shown = e.shown) : d.text = e.text :=
  (Shown.mk.inj h).1

/-- What comes of a painter's work without a cache: a diagram, or a notice of the failure. -/
def Painter.alone (p : Painter) (r : Request) : Diagram :=
  match (p.draw r).bind (p.present r) with
  | .error fault => .notice fault.message
  | .ok diagram => diagram

/-- The answer to a submission by painters who have no cache and take no time. -/
def Roster.answer (r : Roster) (given : Submission) : Except IllustrationError Diagram :=
  match given.request with
  | .error .lineTooLarge => .error .lineTooLarge
  | .error (.unwritable cause) => .error (.unwritable cause)
  | .error (.refused cause) => .ok (.notice cause.message)
  | .ok request =>
    match r.painter? request.subject with
    | .error fault => .error (.noPainter fault)
    | .ok none => .ok (.unavailable request.subject)
    | .ok (some painter) => .ok (painter.alone request)

theorem Roster.answer_congr {r r' : Roster} (h : r'.recipes = r.recipes) :
    r'.answer = r.answer := by
  funext given
  unfold answer painter?
  rw [h]

/-- Requests with the same key get the same drawing from the painters who keep theirs. -/
def Roster.DrawsByKey (r : Roster) : Prop :=
  ∀ (r₁ r₂ : Request) (p₁ p₂ : Painter) (d : Drawing), r₁.cacheKey = r₂.cacheKey →
    r.recipes.lookup r₁.subject = some (.ok p₁) → r.recipes.lookup r₂.subject = some (.ok p₂) →
    p₁.keepsDrawings → p₂.keepsDrawings → p₁.draw r₁ = .ok d → p₂.draw r₂ = .ok d

theorem Roster.DrawsByKey.congr {r r' : Roster} (h : r.DrawsByKey)
    (hrecipes : r'.recipes = r.recipes) : r'.DrawsByKey := by
  unfold DrawsByKey
  rw [hrecipes]
  exact h

namespace Studio

variable {s t : Studio}

/-- A studio whose cache holds what its painters would draw. -/
structure IsFaithful (s : Studio) : Prop where
  consistent : s.roster.IsConsistent
  drawsByKey : s.roster.DrawsByKey
  drawings : ∀ key held, (key, held) ∈ s.cache.entries → ∀ r p, Request.cacheKey r = key →
    s.roster.recipes.lookup r.subject = some (.ok p) → p.keepsDrawings →
    ∃ d, held = some d ∧ p.draw r = .ok d

theorem IsFaithful.congr (h : s.IsFaithful) (hroster : t.roster = s.roster)
    (hcache : t.cache = s.cache) : t.IsFaithful := by
  obtain ⟨hconsistent, hkey, hdrawings⟩ := h
  constructor
  · rwa [hroster]
  · rwa [hroster]
  · rwa [hroster, hcache]

/-! ## The clock and the journal -/

@[simp] theorem shown_finish (s : Studio) (start : Binary64) (d : Diagram) :
    (s.finish start d).1.shown = d.shown := by
  unfold finish
  exact d.shown_update _

@[simp] theorem roster_noteTime (s : Studio) (subject : String) (d : Diagram) :
    (s.noteTime subject d).roster = s.roster := by
  unfold noteTime
  split <;> rfl

@[simp] theorem cache_noteTime (s : Studio) (subject : String) (d : Diagram) :
    (s.noteTime subject d).cache = s.cache := by
  unfold noteTime
  split <;> rfl

/-! ## Painters and diagrams -/

@[simp] theorem painterFor_fst (s : Studio) (subject : String) :
    (s.painterFor subject).1 = (s.roster.get subject).1 := by
  unfold painterFor
  dsimp only
  split <;> rfl

@[simp] theorem roster_painterFor (s : Studio) (subject : String) :
    (s.painterFor subject).2.roster = (s.roster.get subject).2 := by
  unfold painterFor
  dsimp only
  split <;> rfl

@[simp] theorem cache_painterFor (s : Studio) (subject : String) :
    (s.painterFor subject).2.cache = s.cache := by
  unfold painterFor
  dsimp only
  split <;> rfl

@[simp] theorem roster_paint (s : Studio) (start : Binary64) (p : Painter) (r : Request) :
    (s.paint start p r).2.roster = s.roster := by
  unfold paint
  dsimp only
  split
  · rfl
  · rw [roster_noteTime]; rfl

@[simp] theorem cache_paint (s : Studio) (start : Binary64) (p : Painter) (r : Request) :
    (s.paint start p r).2.cache = (p.paint s.cache r).2 := by
  unfold paint
  dsimp only
  split
  · rfl
  · rw [cache_noteTime]; rfl

/-- A painter's failure is shown as a notice. -/
theorem shown_paint (s : Studio) (start : Binary64) (p : Painter) (r : Request) :
    (s.paint start p r).1.shown =
      match (p.paint s.cache r).1 with
      | .error fault => (Diagram.notice fault.message).shown
      | .ok d => d.shown := by
  unfold paint
  dsimp only
  cases (p.paint s.cache r).1 with
  | error fault => exact shown_finish ..
  | ok d =>
    dsimp only
    exact shown_finish ..

/-- What comes of a painter's work is what would come of it without the cache. -/
theorem IsFaithful.shown_paint (h : s.IsFaithful) (start : Binary64) {p : Painter} {r : Request}
    (hp : s.roster.recipes.lookup r.subject = some (.ok p)) :
    (s.paint start p r).1.shown = (p.alone r).shown := by
  have hd : (p.drawingFor s.cache r).1 = (p.draw r).map some := by
    rcases p.drawingFor_cases s.cache r with ⟨d, hk, hm, hd⟩ | hd
    · obtain ⟨_, hdd, hdraw⟩ := h.drawings _ _ hm r p rfl hp hk
      cases hdd
      rw [hd, hdraw]
      rfl
    · exact hd
  have hpaint : (p.paint s.cache r).1 = (p.draw r).bind (p.present r) := by
    rw [Painter.paint_fst, hd]
    cases p.draw r <;> rfl
  rw [Studio.shown_paint, hpaint, Painter.alone]
  cases (p.draw r).bind (p.present r) <;> rfl

/-- What a painter adds to the cache is what all painters would draw for the key. -/
theorem IsFaithful.paint (h : s.IsFaithful) (start : Binary64) {p : Painter} {r : Request}
    (hp : s.roster.recipes.lookup r.subject = some (.ok p)) :
    (s.paint start p r).2.IsFaithful := by
  refine ⟨?_, ?_, ?_⟩
  · rw [roster_paint]
    exact h.consistent
  · rw [roster_paint]
    exact h.drawsByKey
  · rw [roster_paint, cache_paint, Painter.paint_snd]
    intro key held hm r' p' hkey hp' hk'
    rcases Painter.mem_entries_drawingFor hm with hm | ⟨hk, d, hd, he⟩
    · exact h.drawings key held hm r' p' hkey hp' hk'
    · obtain ⟨rfl, rfl⟩ := Prod.mk.inj he
      exact ⟨d, rfl, h.drawsByKey r r' p p' d hkey.symm hp hp' hk hk' hd⟩

/-- Whoever is found is the one by the recipe. -/
theorem IsFaithful.painterFor (h : s.IsFaithful) (subject : String) :
    (s.painterFor subject).1.map (·.map Hire.painter) = s.roster.painter? subject ∧
      (s.painterFor subject).2.IsFaithful ∧
      (s.painterFor subject).2.roster.recipes = s.roster.recipes := by
  rw [painterFor_fst, roster_painterFor]
  refine ⟨s.roster.painter?_get h.consistent subject, ⟨?_, ?_, ?_⟩,
    s.roster.recipes_get subject⟩
  · rw [roster_painterFor]
    exact h.consistent.get subject
  · rw [roster_painterFor]
    exact h.drawsByKey.congr (s.roster.recipes_get subject)
  · rw [roster_painterFor, cache_painterFor, s.roster.recipes_get]
    exact h.drawings

/-- One step: the answer is the one by the recipes, which stay, and so does the invariant. -/
theorem IsFaithful.illustrate (h : s.IsFaithful) (given : Submission) :
    (s.illustrate given).1.map Diagram.shown = (s.roster.answer given).map Diagram.shown ∧
      (s.illustrate given).2.IsFaithful ∧
      (s.illustrate given).2.roster.recipes = s.roster.recipes := by
  unfold Studio.illustrate Roster.answer
  cases given.request with
  | error e =>
    cases e with
    | lineTooLarge => exact ⟨rfl, h.congr rfl rfl, rfl⟩
    | unwritable cause => exact ⟨rfl, h.congr rfl rfl, rfl⟩
    | refused cause => exact ⟨congrArg Except.ok (shown_finish ..), h.congr rfl rfl, rfl⟩
  | ok request =>
    have hread : s.readClock.2.IsFaithful := h.congr rfl rfl
    obtain ⟨hfound, ht, hrecipes⟩ := hread.painterFor request.subject
    rw [show s.readClock.2.roster = s.roster from rfl] at hfound hrecipes
    dsimp only
    generalize s.readClock.2.painterFor request.subject = answer at hfound ht hrecipes ⊢
    obtain ⟨found, t⟩ := answer
    rw [← hfound]
    rcases found with fault | _ | hire
    · exact ⟨rfl, ht, hrecipes⟩
    · exact ⟨congrArg Except.ok (shown_finish ..), ht.congr rfl rfl, hrecipes⟩
    · have hp : t.roster.recipes.lookup request.subject = some (.ok hire.painter) := by
        rw [hrecipes, ← Roster.painter?_eq_some_iff, ← hfound]
        rfl
      refine ⟨congrArg Except.ok (ht.shown_paint _ hp), ht.paint _ hp, ?_⟩
      rw [← hrecipes]
      exact congrArg Roster.recipes (roster_paint ..)

/-! ## Runs -/

/-- The answers to submissions one after the other. A submission without a diagram does not stop
the others. -/
def answers (s : Studio) : List Submission → List (Except IllustrationError Diagram)
  | [] => []
  | given :: rest => (s.illustrate given).1 :: (s.illustrate given).2.answers rest

/-- The studio after submissions. -/
def afterAll (s : Studio) (session : List Submission) : Studio :=
  session.foldl (fun s given => (s.illustrate given).2) s

theorem IsFaithful.afterAll (h : s.IsFaithful) (session : List Submission) :
    (s.afterAll session).IsFaithful ∧ (s.afterAll session).roster.recipes = s.roster.recipes := by
  induction session generalizing s with
  | nil => exact ⟨h, rfl⟩
  | cons given session ih =>
    obtain ⟨-, hs, hrecipes⟩ := h.illustrate given
    exact (ih hs).imp_right fun h => h.trans hrecipes

/-- Over any run, every answer is the one by the recipes. -/
theorem IsFaithful.shown_answers (h : s.IsFaithful) (session : List Submission) :
    (s.answers session).map (·.map Diagram.shown) =
      session.map fun given => (s.roster.answer given).map Diagram.shown := by
  induction session generalizing s with
  | nil => rfl
  | cons given session ih =>
    obtain ⟨hanswer, hs, hrecipes⟩ := h.illustrate given
    rw [answers, List.map_cons, List.map_cons, hanswer, ih hs, Roster.answer_congr hrecipes]

end Studio

end Reflow
