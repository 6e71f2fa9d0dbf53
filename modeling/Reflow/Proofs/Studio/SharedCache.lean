import Reflow.Proofs.Studio.Answers
import Reflow.Report.Summary

/-!
# The shared cache cannot be seen

A studio opens with the standard painters, some of them replaced by painters who never manage to
draw, and an empty cache that they all share. Whatever it was asked before, it shows what a studio
that has just opened would show.

* `Roster.IsSafe.drawsByKey`: the key of a request is enough to tell its drawing.
* `Studio.opening_answers_alone`: the answers of a session, and the rows of a summary after it.
-/

namespace Reflow

/-- A painter whose work always fails. -/
def Painter.NeverDraws (p : Painter) : Prop := ∀ r, ∃ fault, p.draw r = .error fault

namespace Roster

variable {r : Roster} {replaced : List (Subject × Painter)}

/-- The standard roster with other painters for some subjects, registered one after the other. -/
def replacing (replaced : List (Subject × Painter)) : Roster :=
  replaced.foldl (fun r e => r.register e.1.name (.ok e.2)) standard

/-- Every painter to be had is the one of the subject, or never draws. -/
def IsSafe (r : Roster) : Prop :=
  ∀ name p, r.recipes.lookup name = some (.ok p) →
    ∃ s : Subject, name = s.name ∧ (p = .ofSubject s true ∨ p.NeverDraws)

theorem isSafe_standard : standard.IsSafe := by
  intro name p h
  rw [lookup_recipes_standard] at h
  obtain ⟨s, hs, hp⟩ := Option.map_eq_some_iff.1 h
  have hname : s.name = name := by simpa using List.find?_some hs
  exact ⟨s, hname.symm, .inl (Except.ok.inj hp).symm⟩

theorem IsSafe.register (h : r.IsSafe) (s : Subject) {p : Painter} (hp : p.NeverDraws) :
    (r.register s.name (.ok p)).IsSafe := by
  intro name q hq
  rw [lookup_recipes_register] at hq
  split at hq
  · next hn =>
    cases hq
    exact ⟨s, hn, .inr hp⟩
  · exact h name q hq

theorem isSafe_replacing (h : ∀ e ∈ replaced, e.2.NeverDraws) : (replacing replaced).IsSafe :=
  List.foldlRecOn replaced _ isSafe_standard fun _ hr e he => hr.register e.1 (h e he)

theorem isConsistent_replacing (replaced : List (Subject × Painter)) :
    (replacing replaced).IsConsistent :=
  List.foldlRecOn replaced _ isConsistent_standard fun _ hr e _ => hr.register e.1.name _

/-- Subjects have no colons, so requests with the same key have the same subject and value, which
are all that the painters of subjects look at. -/
theorem IsSafe.drawsByKey (h : r.IsSafe) : r.DrawsByKey := by
  intro r₁ r₂ p₁ p₂ d hkey h₁ h₂ _ _ hd
  obtain ⟨s, hs, hp⟩ := h _ _ h₁
  obtain ⟨t, ht, -⟩ := h _ _ h₂
  obtain ⟨hsubject, -, hvalue⟩ := Request.cacheKey_inj (hs ▸ s.colon_notMem_name)
    (ht ▸ t.colon_notMem_name) hkey
  rw [hsubject, h₂] at h₁
  cases h₁
  rcases hp with rfl | hp
  · rw [← hd]
    show Except.ok (Drawing.mk (s.before r₂.value) (s.after r₂.value)) = _
    rw [← hvalue]
    rfl
  · obtain ⟨fault, hf⟩ := hp r₁
    rw [hf] at hd
    cases hd

end Roster

namespace Studio

/-- A studio at its opening. -/
def opening (replaced : List (Subject × Painter)) (capacity : Nat) (clock : Clock) : Studio :=
  ⟨.replacing replaced, .empty capacity, clock, []⟩

theorem isFaithful_opening {replaced : List (Subject × Painter)}
    (h : ∀ e ∈ replaced, e.2.NeverDraws) (capacity : Nat) (clock : Clock) :
    (opening replaced capacity clock).IsFaithful where
  consistent := Roster.isConsistent_replacing replaced
  drawsByKey := (Roster.isSafe_replacing h).drawsByKey
  drawings _ _ hm := nomatch hm

theorem isFaithful_standard : standard.IsFaithful :=
  isFaithful_opening (List.forall_mem_nil _) 100 ⟨.ofNat 0, 0⟩

end Studio

namespace Summary

variable {s : Studio}

/-- The text of a finding's diagram by painters who have no cache. -/
def diagramBy (r : Roster) (f : Finding) : Except IllustrationError (Option String) :=
  match f.request? with
  | none => .ok none
  | some request => (r.answer (.draft request.toDraft)).map fun d => some d.text

theorem diagramBy_congr {r r' : Roster} (h : r'.recipes = r.recipes) :
    diagramBy r' = diagramBy r := by
  unfold diagramBy
  rw [Roster.answer_congr h]

theorem diagramOf_isFaithful (h : s.IsFaithful) (f : Finding) :
    (diagramOf s f).1 = diagramBy s.roster f ∧ (diagramOf s f).2.IsFaithful ∧
      (diagramOf s f).2.roster.recipes = s.roster.recipes := by
  unfold diagramOf diagramBy
  cases f.request? with
  | none => exact ⟨rfl, h, rfl⟩
  | some request =>
    obtain ⟨hshown, hs, hrecipes⟩ := h.illustrate (.draft request.toDraft)
    refine ⟨?_, hs, hrecipes⟩
    have htext := congrArg (Except.map fun d : Diagram.Shown => some d.text) hshown
    dsimp only
    generalize (s.illustrate (.draft request.toDraft)).1 = found at htext
    generalize s.roster.answer (.draft request.toDraft) = answer at htext
    cases found <;> cases answer <;> exact htext

theorem diagramsOf_eq_mapM (h : s.IsFaithful) (findings : List Finding) :
    diagramsOf s findings = findings.mapM (diagramBy s.roster) := by
  induction findings generalizing s with
  | nil => rfl
  | cons f findings ih =>
    obtain ⟨hf, hs, hrecipes⟩ := diagramOf_isFaithful h f
    rw [List.mapM_cons, ← hf, ← diagramBy_congr hrecipes, ← ih hs]
    rfl

end Summary

/-- The answers of any session are those that a studio gives alone that has just opened, whatever
the size of its cache, and so are the diagrams of a summary after the session: each row's depends on
its own finding only. -/
theorem Studio.opening_answers_alone {replaced : List (Subject × Painter)}
    (h : ∀ e ∈ replaced, e.2.NeverDraws) (capacity₁ capacity₂ : Nat) (clock₁ clock₂ : Clock)
    (session : List Submission) (findings : List Finding) :
    let shared := opening replaced capacity₁ clock₁
    let alone := opening replaced capacity₂ clock₂
    (shared.answers session).map (·.map Diagram.shown) =
        session.map (fun given => (alone.illustrate given).1.map Diagram.shown) ∧
      Summary.illustrated (shared.afterAll session) findings =
        (findings.mapM fun f => (Summary.diagramOf alone f).1).map
          (Summary.ofDiagrams findings) := by
  intro shared alone
  have hshared : shared.IsFaithful := isFaithful_opening h capacity₁ clock₁
  have halone : alone.IsFaithful := isFaithful_opening h capacity₂ clock₂
  have hroster : shared.roster = alone.roster := rfl
  constructor
  · rw [hshared.shown_answers, hroster]
    exact List.map_congr_left fun given _ => (halone.illustrate given).1.symm
  · obtain ⟨hafter, hrecipes⟩ := hshared.afterAll session
    have hby : Summary.diagramBy alone.roster = fun f => (Summary.diagramOf alone f).1 := by
      funext f
      exact (Summary.diagramOf_isFaithful halone f).1.symm
    rw [Summary.illustrated, Summary.diagramsOf_eq_mapM hafter, Summary.diagramBy_congr hrecipes,
      hroster, hby]

/-- A painter who fails shares a cache of one drawing with the standard painters. -/
theorem Studio.opening_answers_alone_failing :
    let failing : Painter := ⟨"Flex", fun _ => .error ⟨"Broken", ""⟩, fun _ => .ok [], true⟩
    let replaced := [(Subject.flexFragility, failing)]
    let shared := opening replaced 1 ⟨.ofNat 1, 0⟩
    let alone := opening replaced 100 ⟨.ofNat 0, 0⟩
    let wide := Submission.loose (.fields [("type", .text "fixed-dimensions"),
      ("severity", .text "low"), ("line", .int 3), ("selector", .text ".a"),
      ("property", .text "width"), ("value", .text "a:b")])
    let flex := Submission.loose (.fields [("type", .text "flex-fragility"),
      ("severity", .text "low"), ("line", .int 3), ("selector", .text ".a"),
      ("property", .text "flex"), ("value", .text "0 0 9px")])
    (∀ e ∈ replaced, e.2.NeverDraws) ∧
      (shared.answers [wide, flex, wide, .loose .null]).map (·.map Diagram.shown) =
        [wide, flex, wide, .loose .null].map fun given =>
          (alone.illustrate given).1.map Diagram.shown := by
  intro failing replaced shared alone wide flex
  have hfail : ∀ e ∈ replaced, e.2.NeverDraws := by
    intro e he
    cases List.mem_singleton.1 he
    exact fun r => ⟨⟨"Broken", ""⟩, rfl⟩
  exact ⟨hfail, (opening_answers_alone hfail 1 100 ⟨.ofNat 1, 0⟩ ⟨.ofNat 0, 0⟩
    [wide, flex, wide, .loose .null] []).1⟩

end Reflow
