import Reflow.Proofs.Diagram.Request
import Reflow.Proofs.Studio.Answers

/-!
# Submissions that get no answer

A studio contains what is wrong with a request and what goes wrong in a painter's work. Three things
get past it: a line that no double can hold, an integer that a message or the suggestion needs and
that has too many digits to be written, and a recipe that fails.

* `Submission.IsBlocked`: the three causes, by the recipes of the subjects.
* `Studio.illustrate_eq_error_iff`, `Studio.illustrateAll_eq_error_iff`: a studio gives no answer
  for these causes only. Of several submissions, the first that is blocked leaves all of them
  without an answer.
* `Studio.Event`: what a studio goes through. A subject has the recipe that it was given last
  (`Studio.latestRecipe?`), whatever was asked in between.
* `Studio.unanswered_iff_isBlocked`: the above for a studio that opens without recipes.
-/

namespace Reflow

/-- What keeps a submission from being answered: its line is past all doubles, an integer in a bad
line or in its suggestion cannot be written, or the recipe of its subject fails. -/
inductive Submission.IsBlocked (recipe? : String → Option Recipe) (given : Submission) :
    IllustrationError → Prop
  | line (h : given.HasEndlessLine) : IsBlocked recipe? given .lineTooLarge
  | unwritable (h : given.HasUnwritable) : IsBlocked recipe? given (.unwritable .unwritable)
  | painter {request : Request} {fault : Fault} (hrequest : given.request = .ok request)
      (hrecipe : recipe? request.subject = some (.error fault)) :
      IsBlocked recipe? given (.noPainter fault)

namespace Submission

variable {recipe? : String → Option Recipe} {given : Submission} {cause : IllustrationError}

/-- What blocks a submission, told by its request. What is refused is not blocked: it gets a diagram
about the refusal. -/
theorem isBlocked_iff : given.IsBlocked recipe? cause ↔
    given.request = .error .lineTooLarge ∧ cause = .lineTooLarge ∨
      (∃ digits, given.request = .error (.unwritable digits) ∧ cause = .unwritable digits) ∨
      ∃ request fault, given.request = .ok request ∧
        recipe? request.subject = some (.error fault) ∧ cause = .noPainter fault := by
  constructor
  · rintro (hline | hwritten | ⟨hok, hrecipe⟩)
    · exact .inl ⟨request_eq_lineTooLarge_iff.2 hline, rfl⟩
    · exact .inr (.inl ⟨_, request_eq_unwritable_iff.2 ⟨hwritten, rfl⟩, rfl⟩)
    · exact .inr (.inr ⟨_, _, hok, hrecipe, rfl⟩)
  · rintro (⟨hline, rfl⟩ | ⟨digits, hdigits, rfl⟩ | ⟨request, fault, hok, hrecipe, rfl⟩)
    · exact .line (request_eq_lineTooLarge_iff.1 hline)
    · obtain ⟨hwritten, rfl⟩ := request_eq_unwritable_iff.1 hdigits
      exact .unwritable hwritten
    · exact .painter hok hrecipe

end Submission

namespace Studio

variable {s : Studio} {given : Submission} {cause : IllustrationError}

/-- The recipe of a subject in a studio. -/
def recipe? (s : Studio) (subject : String) : Option Recipe := s.roster.recipes.lookup subject

/-! ## One submission -/

/-- Answering a submission may hire the painter of one subject, and leaves the roster alone apart
from that. -/
theorem roster_illustrate (s : Studio) (given : Submission) :
    (s.illustrate given).2.roster = s.roster ∨
      ∃ subject, (s.illustrate given).2.roster = (s.roster.get subject).2 := by
  unfold illustrate
  cases given.request with
  | error e =>
    cases e with
    | lineTooLarge => exact .inl rfl
    | refused refusal => exact .inl rfl
    | unwritable digits => exact .inl rfl
  | ok request =>
    refine .inr ⟨request.subject, ?_⟩
    have hroster := roster_painterFor s.readClock.2 request.subject
    dsimp only
    generalize s.readClock.2.painterFor request.subject = found at hroster ⊢
    obtain ⟨fault | _ | hire, t⟩ := found
    · exact hroster
    · exact hroster
    · exact (roster_paint ..).trans hroster

theorem isConsistent_illustrate (h : s.roster.IsConsistent) (given : Submission) :
    (s.illustrate given).2.roster.IsConsistent := by
  rcases s.roster_illustrate given with hroster | ⟨subject, hroster⟩
  · rwa [hroster]
  · rw [hroster]
    exact h.get subject

theorem recipe?_illustrate (s : Studio) (given : Submission) :
    (s.illustrate given).2.recipe? = s.recipe? := by
  have hrecipes : (s.illustrate given).2.roster.recipes = s.roster.recipes := by
    rcases s.roster_illustrate given with hroster | ⟨subject, hroster⟩
    · rw [hroster]
    · rw [hroster, Roster.recipes_get]
  funext subject
  rw [recipe?, hrecipes]
  rfl

/-- One step: there is no answer exactly if the submission is blocked. -/
theorem illustrate_eq_error_iff (h : s.roster.IsConsistent) :
    (s.illustrate given).1 = .error cause ↔ given.IsBlocked s.recipe? cause := by
  have hne {diagram : Diagram} :
      (.ok diagram : Except IllustrationError Diagram) ≠ .error cause := nofun
  rw [Submission.isBlocked_iff]
  unfold illustrate
  cases hrequest : given.request with
  | error e =>
    cases e with
    | lineTooLarge => simp [eq_comm]
    | unwritable digits => simp [eq_comm]
    | refused refusal => simp
  | ok request =>
    have hfound := s.readClock.2.painterFor_fst request.subject
    rw [show s.readClock.2.roster = s.roster from rfl] at hfound
    simp only [reduceCtorEq, false_and, exists_false, false_or, Except.ok.injEq, exists_and_left,
      exists_eq_left', recipe?, ← Roster.painter?_eq_error_iff, ← s.roster.painter?_get h,
      ← hfound]
    generalize s.readClock.2.painterFor request.subject = found
    obtain ⟨fault | _ | hire, t⟩ := found
    · constructor
      · intro he
        cases he
        exact ⟨fault, rfl, rfl⟩
      · rintro ⟨_, he, rfl⟩
        cases he
        rfl
    · exact iff_of_false hne nofun
    · exact iff_of_false hne nofun

/-! ## Several submissions -/

/-- All are answered exactly if each of them is. -/
theorem illustrateAll_eq_ok_iff {session : List Submission} {diagrams : List Diagram} :
    (s.illustrateAll session).1 = .ok diagrams ↔ s.answers session = diagrams.map .ok := by
  induction session generalizing s diagrams with
  | nil => cases diagrams <;> simp [illustrateAll, answers]
  | cons given session ih =>
    rw [illustrateAll, answers]
    obtain ⟨fault | diagram, t⟩ := s.illustrate given
    · cases diagrams <;> simp
    · specialize @ih t
      dsimp only
      generalize t.illustrateAll session = rest at ih ⊢
      cases diagrams with
      | nil => obtain ⟨fault | rest, u⟩ := rest <;> simp
      | cons d diagrams => obtain ⟨fault | rest, u⟩ := rest <;> simp [← ih]

/-- The first submission that is blocked keeps all of them from being answered. -/
theorem illustrateAll_eq_error_iff (h : s.roster.IsConsistent) {session : List Submission} :
    (s.illustrateAll session).1 = .error cause ↔
      ∃ before given rest, session = before ++ given :: rest ∧
        (∀ g ∈ before, ∀ e, ¬ g.IsBlocked s.recipe? e) ∧ given.IsBlocked s.recipe? cause := by
  induction session generalizing s with
  | nil => simp [illustrateAll]
  | cons given session ih =>
    specialize ih (isConsistent_illustrate h given)
    rw [recipe?_illustrate] at ih
    rw [illustrateAll, exists_first_cons_iff, ← ih, ← illustrate_eq_error_iff h]
    simp only [← illustrate_eq_error_iff h]
    obtain ⟨fault | diagram, t⟩ := s.illustrate given
    · simp
    · dsimp only
      generalize t.illustrateAll session = rest
      obtain ⟨fault | rest, u⟩ := rest <;> simp

/-! ## What a studio goes through -/

/-- A subject gets a recipe, the painter of a subject is asked for, or a submission is answered. -/
inductive Event where
  | register (subject : String) (recipe : Recipe)
  | hire (subject : String)
  | submit (given : Submission)

/-- The studio after an event. -/
def after (s : Studio) : Event → Studio
  | .register subject recipe => { s with roster := s.roster.register subject recipe }
  | .hire subject => (s.painterFor subject).2
  | .submit given => (s.illustrate given).2

/-- The studio after events in their order. -/
def following (s : Studio) (events : List Event) : Studio := events.foldl after s

/-- The recipe that a subject gets. -/
def Event.recipe? (subject : String) : Event → Option Recipe
  | register name recipe => if subject = name then some recipe else none
  | hire _ => none
  | submit _ => none

/-- The recipe that a subject got last. -/
def latestRecipe? (events : List Event) (subject : String) : Option Recipe :=
  events.reverse.findSome? (·.recipe? subject)

theorem isConsistent_after (h : s.roster.IsConsistent) (event : Event) :
    (s.after event).roster.IsConsistent := by
  cases event with
  | register subject recipe => exact h.register subject recipe
  | hire subject =>
    rw [after, roster_painterFor]
    exact h.get subject
  | submit given => exact isConsistent_illustrate h given

/-- Only a registration changes a recipe. -/
theorem recipe?_after (s : Studio) (event : Event) (subject : String) :
    (s.after event).recipe? subject = (event.recipe? subject).or (s.recipe? subject) := by
  cases event with
  | register name recipe =>
    rw [recipe?, after, Roster.lookup_recipes_register, Event.recipe?]
    split <;> rfl
  | hire name =>
    rw [recipe?, after, roster_painterFor, Roster.recipes_get]
    rfl
  | submit given => exact congrFun (recipe?_illustrate s given) subject

theorem isConsistent_following (h : s.roster.IsConsistent) (events : List Event) :
    (s.following events).roster.IsConsistent :=
  List.foldlRecOn (motive := fun t : Studio => t.roster.IsConsistent) events after h
    fun _ ht event _ => isConsistent_after ht event

/-- Over any run, a subject has the recipe that it got last, or else the one it had. -/
theorem recipe?_following (s : Studio) (events : List Event) (subject : String) :
    (s.following events).recipe? subject =
      (latestRecipe? events subject).or (s.recipe? subject) := by
  induction events generalizing s with
  | nil => rfl
  | cons event events ih =>
    have hrun : s.following (event :: events) = (s.after event).following events := rfl
    rw [hrun, ih, recipe?_after, ← Option.or_assoc, latestRecipe?, latestRecipe?,
      List.reverse_cons, List.findSome?_append, List.findSome?_singleton]

/-- A studio that opens without recipes leaves a submission unanswered exactly if it is blocked by
the recipes registered last, whatever was registered, hired and submitted before. Of several
submissions, the first that is blocked leaves all of them unanswered; if there is none, each gets
its diagram, in order. -/
theorem unanswered_iff_isBlocked (cache : Cache Drawing) (clock : Clock)
    (journal : List Journal.Entry) (events : List Event) :
    let s := (⟨.empty, cache, clock, journal⟩ : Studio).following events
    let IsBlocked (given : Submission) := given.IsBlocked (latestRecipe? events)
    (∀ given cause, (s.illustrate given).1 = .error cause ↔ IsBlocked given cause) ∧
      ∀ session,
        (∀ diagrams, (s.illustrateAll session).1 = .ok diagrams ↔
          s.answers session = diagrams.map .ok) ∧
        ∀ cause, (s.illustrateAll session).1 = .error cause ↔
          ∃ before given rest, session = before ++ given :: rest ∧
            (∀ g ∈ before, ∀ e, ¬ IsBlocked g e) ∧ IsBlocked given cause := by
  intro s IsBlocked
  have hconsistent : s.roster.IsConsistent :=
    isConsistent_following Roster.isConsistent_empty events
  have hrecipe : s.recipe? = latestRecipe? events := by
    funext subject
    exact (recipe?_following _ events subject).trans Option.or_none
  refine ⟨fun given cause => ?_, fun session => ⟨fun diagrams => illustrateAll_eq_ok_iff,
    fun cause => ?_⟩⟩
  · rw [illustrate_eq_error_iff hconsistent, hrecipe]
  · rw [illustrateAll_eq_error_iff hconsistent, hrecipe]

/-- A line of two to the 1024th, a suggestion of 4301 digits and a recipe that fails are not
contained. -/
theorem unanswered_endless_and_unstaffed :
    let flex (line : Int) (suggestion : Datum) : Submission := .loose (.fields
      [("type", .text "flex-fragility"), ("severity", .text "low"), ("line", .int line),
        ("selector", .text ".a"), ("property", .text "flex"), ("value", .text "0 0 9px"),
        ("suggestion", suggestion)])
    let boom : Fault := ⟨"ValueError", "boom"⟩
    let unstaffed := standard.after (.register "flex-fragility" (.error boom))
    (standard.illustrate (flex (Binary64.twoPow 1024) .null)).1 = .error .lineTooLarge ∧
      (standard.illustrate (flex 3 (.int (Nat.pow 10 Text.digitLimit : Nat)))).1 =
        .error (.unwritable .unwritable) ∧
      (unstaffed.illustrate (flex 3 .null)).1 = .error (.noPainter boom) := by
  intro flex boom unstaffed
  let request (line : Int) : Request :=
    ⟨"flex-fragility", .low, line, ".a", "flex", "0 0 9px", "", .other⟩
  have hdraft (line : Int) : (request line).toDraft.request =
      if (Binary64.ofInt line).isFinite then .ok (request line) else .error .lineTooLarge :=
    Request.request_toDraft ⟨(by decide : "flex-fragility" ≠ ""), (by decide : ".a" ≠ ""),
      (by decide : "flex" ≠ ""), (by decide : "0 0 9px" ≠ "")⟩
  have hthree : (request 3).toDraft.request = .ok (request 3) :=
    (hdraft 3).trans (if_pos (by decide +kernel))
  refine ⟨?_, ?_, ?_⟩
  · refine (illustrate_eq_error_iff Roster.isConsistent_standard).2 (.line ?_)
    rw [← Submission.request_eq_lineTooLarge_iff]
    exact (hdraft _).trans (if_neg (by decide +kernel))
  · refine (illustrate_eq_error_iff Roster.isConsistent_standard).2
      (.unwritable ⟨_, rfl, .suggestion hthree fun h => ?_⟩)
    rw [Draft.suggestion_ofFields (by decide +kernel)] at h
    exact Text.not_isWritable_pow (Datum.isWritten_int_iff.1 h)
  · have hconsistent := isConsistent_after (s := standard) Roster.isConsistent_standard
      (.register "flex-fragility" (.error boom))
    refine (illustrate_eq_error_iff hconsistent).2 (.painter hthree ?_)
    exact recipe?_after standard _ _

end Studio

end Reflow
