import Reflow.Proofs.Cache.History
import Reflow.Proofs.Diagram.Distinct
import Reflow.Proofs.Studio.Unanswered

/-!
# Drawings outlive their painters

When a subject gets another painter, the old one is dismissed, but its drawings stay in the cache
under keys that do not tell who made them. So the new painter shows them as its own, under its own
title, for as long as the cache keeps them.

* `Sketch`: a drawing told by its maker and the value it was made for. The cache of a run is followed
  with sketches in place of drawings.
* `Studio.Turn`, `Studio.latestMaker?`, `Studio.keptSketch?`: runs in which names get the painters of
  subjects, and what the cache keeps after them, by its history.
* `Studio.Follows`: the state after a run. Every turn keeps it (`Studio.Follows.turn`).
* `Studio.shown_of_takeover`: a painter who takes a name over goes on with the drawing that was shown.
* `Studio.shown_after_replacements`: whose drawing a diagram shows, and when it is the right one.
-/

namespace Reflow

open Cache

/-- A drawing, told by the subject whose painter made it and by the value it was made for. -/
structure Sketch where
  maker : Subject
  value : String
deriving DecidableEq, Repr

namespace Sketch

variable {sketch other : Sketch}

/-- The drawing itself. -/
def drawing (sketch : Sketch) : Drawing :=
  ⟨sketch.maker.before sketch.value, sketch.maker.after sketch.value⟩

theorem isClear_drawing (sketch : Sketch) : sketch.drawing.IsClear :=
  sketch.maker.isClear_drawing sketch.value

/-- A drawing shows who made it. -/
theorem maker_eq (h : sketch.drawing = other.drawing) : sketch.maker = other.maker :=
  Subject.eq_of_drawing_eq h

/-- Two sketches give a request the same text only if they are drawn the same. -/
theorem text_compose_inj {title number : String} {r : Request} :
    (Diagram.compose title number r sketch.drawing).text =
        (Diagram.compose title number r other.drawing).text ↔
      sketch.drawing = other.drawing :=
  ⟨Diagram.text_compose_inj sketch.isClear_drawing other.isClear_drawing, fun h => by rw [h]⟩

end Sketch

/-! ## One request -/

/-- The painter of a subject shows the sketch that is kept, or its own. -/
theorem Painter.paint_map (maker : Subject) (c : Cache Sketch) {r : Request}
    (hline : Text.IsWritable r.line) :
    let own : Except Fault (Option Sketch) := .ok (some ⟨maker, r.value⟩)
    (ofSubject maker true).paint (c.map Sketch.drawing) r =
      (.ok (.compose maker.title (toString r.line) r
        ((c.entries.lookup r.cacheKey).join.getD ⟨maker, r.value⟩).drawing),
        (c.getOrCreate r.cacheKey fun _ => own).2.map Sketch.drawing) := by
  intro own
  have hdrawing : (ofSubject maker true).drawingFor (c.map Sketch.drawing) r =
      (.ok (some ((c.entries.lookup r.cacheKey).join.getD ⟨maker, r.value⟩).drawing),
        (c.getOrCreate r.cacheKey fun _ => own).2.map Sketch.drawing) := by
    have hmade : (c.map Sketch.drawing).getOrCreate r.cacheKey (fun _ =>
        own.map (Option.map Sketch.drawing)) = _ := getOrCreate_map Sketch.drawing c r.cacheKey own
    rw [getOrCreate_fst] at hmade
    exact hmade
  refine Prod.ext ?_ ((paint_snd ..).trans (congrArg Prod.snd hdrawing))
  exact (paint_of_drawing (congrArg Prod.fst hdrawing)).trans (present_of_isWritable hline _)

/-- Without a cache the painter of a subject shows its own. -/
theorem Painter.paint_alone (maker : Subject) (cache : Cache Drawing) {r : Request}
    (hline : Text.IsWritable r.line) :
    ((ofSubject maker false).paint cache r).1 =
      .ok (.compose maker.title (toString r.line) r (⟨maker, r.value⟩ : Sketch).drawing) := by
  have hdrawing : (ofSubject maker false).drawingFor cache r =
      (.ok (some (⟨maker, r.value⟩ : Sketch).drawing), cache) := rfl
  exact (paint_of_drawing (congrArg Prod.fst hdrawing)).trans (present_of_isWritable hline _)

namespace Studio

variable {s : Studio} {given : Submission} {r : Request}

/-- A submission has its painter looked up without a change to the cache. -/
theorem exists_painterFor (s : Studio) (subject : String) : ∃ t : Studio,
    s.readClock.2.painterFor subject = ((s.roster.get subject).1, t) ∧ t.cache = s.cache :=
  ⟨(s.readClock.2.painterFor subject).2,
    Prod.ext (s.readClock.2.painterFor_fst subject) rfl, s.readClock.2.cache_painterFor subject⟩

theorem illustrate_of_paint {hire : Hire} {d : Diagram} {cache : Cache Drawing}
    (hr : given.request = .ok r) (hget : (s.roster.get r.subject).1 = .ok (some hire))
    (hpaint : hire.painter.paint s.cache r = (.ok d, cache)) :
    (s.illustrate given).1.map Diagram.shown = .ok d.shown ∧
      (s.illustrate given).2.cache = cache := by
  obtain ⟨t, hfound, hcache⟩ := s.exists_painterFor r.subject
  rw [← hcache] at hpaint
  unfold illustrate
  rw [hr]
  dsimp only
  rw [hfound, hget]
  constructor
  · refine congrArg Except.ok ((shown_paint ..).trans ?_)
    rw [hpaint]
  · rw [cache_paint, hpaint]

/-- Without a painter the cache is left alone. -/
theorem cache_illustrate_of_unknown (hr : given.request = .ok r)
    (hget : (s.roster.get r.subject).1 = .ok none) : (s.illustrate given).2.cache = s.cache := by
  obtain ⟨t, hfound, hcache⟩ := s.exists_painterFor r.subject
  unfold illustrate
  rw [hr]
  dsimp only
  rw [hfound, hget]
  exact hcache

theorem cache_illustrate_of_error {error : RequestError} (hr : given.request = .error error) :
    (s.illustrate given).2.cache = s.cache := by
  unfold illustrate
  rw [hr]
  cases error <;> rfl

/-! ## Runs -/

/-- A step of a run: a name gets the painter of a subject, who keeps the drawings, or a submission
is answered. -/
inductive Turn where
  | register (name : String) (maker : Subject)
  | submit (given : Submission)

/-- The turn as an event of a studio. -/
def Turn.event : Turn → Event
  | register name maker => .register name (.ok (.ofSubject maker true))
  | submit given => .submit given

/-- The subject whose painter a name gets. -/
def Turn.maker? (name : String) : Turn → Option Subject
  | register other maker => if name = other then some maker else none
  | submit _ => none

/-- The subject whose painter a name got last. -/
def latestMaker? (turns : List Turn) (name : String) : Option Subject :=
  turns.reverse.findSome? (·.maker? name)

/-- What a turn asks of the cache: a request with a painter asks for its drawing, which that painter
makes if there is none. -/
def Turn.use? (maker? : String → Option Subject) : Turn → Option (Use Fault Sketch)
  | register _ _ => none
  | submit given =>
    match given.request with
    | .error _ => none
    | .ok r => (maker? r.subject).map fun maker =>
      .getOrCreate r.cacheKey (.ok (some ⟨maker, r.value⟩))

theorem Turn.use?_submit_of_error {maker? : String → Option Subject} {error : RequestError}
    (hr : given.request = .error error) : (submit given).use? maker? = none := by
  rw [use?, hr]

theorem Turn.use?_submit_of_ok {maker? : String → Option Subject} (hr : given.request = .ok r) :
    (submit given).use? maker? = (maker? r.subject).map fun maker =>
      .getOrCreate r.cacheKey (.ok (some ⟨maker, r.value⟩)) := by
  rw [use?, hr]

/-- What turns ask of the cache, after other turns. -/
def usesAfter (before : List Turn) : List Turn → List (Use Fault Sketch)
  | [] => []
  | turn :: turns =>
    (turn.use? (latestMaker? before)).toList ++ usesAfter (before ++ [turn]) turns

/-- The sketch that a cache with so much room keeps under a key after turns. -/
def keptSketch? (room : Nat) (turns : List Turn) (key : String) : Option Sketch :=
  (History.ofUses room (usesAfter [] turns)).held? room key

/-- A studio after turns, with what its cache holds told by sketches. -/
structure Follows (s : Studio) (turns : List Turn) (c : Cache Sketch) : Prop where
  consistent : s.roster.IsConsistent
  recipe : ∀ name, s.recipe? name =
    (latestMaker? turns name).map fun maker => .ok (.ofSubject maker true)
  cache : s.cache = c.map Sketch.drawing

section Runs

variable {turns before : List Turn} {c : Cache Sketch} {maker : Subject}

theorem latestMaker?_concat (turns : List Turn) (turn : Turn) (name : String) :
    latestMaker? (turns ++ [turn]) name = (turn.maker? name).or (latestMaker? turns name) := by
  rw [latestMaker?, List.reverse_append, List.reverse_singleton, List.singleton_append,
    List.findSome?_cons]
  cases turn.maker? name <;> rfl

theorem Follows.painter_get (h : s.Follows turns c) (name : String) :
    (s.roster.get name).1.map (·.map Hire.painter) =
      .ok ((latestMaker? turns name).map fun maker => .ofSubject maker true) := by
  rw [s.roster.painter?_get h.consistent, Roster.painter?]
  have hrecipe : s.roster.recipes.lookup name = _ := h.recipe name
  rw [hrecipe]
  cases latestMaker? turns name <;> rfl

theorem Follows.exists_hire (h : s.Follows turns c) {name : String}
    (hmaker : latestMaker? turns name = some maker) :
    ∃ hire, (s.roster.get name).1 = .ok (some hire) ∧ hire.painter = .ofSubject maker true := by
  have hget := h.painter_get name
  rw [hmaker] at hget
  generalize (s.roster.get name).1 = answer at hget
  rcases answer with fault | _ | hire
  · cases hget
  · cases hget
  · exact ⟨hire, rfl, Option.some.inj (Except.ok.inj hget)⟩

theorem Follows.get_eq_none (h : s.Follows turns c) {name : String}
    (hmaker : latestMaker? turns name = none) : (s.roster.get name).1 = .ok none := by
  have hget := h.painter_get name
  rw [hmaker] at hget
  generalize (s.roster.get name).1 = answer at hget
  rcases answer with fault | _ | hire
  · cases hget
  · rfl
  · cases hget

/-- A request with a painter is answered with the sketch that is kept, or with a new one. -/
theorem Follows.illustrate (h : s.Follows turns c) (hr : given.request = .ok r)
    (hmaker : latestMaker? turns r.subject = some maker) :
    (s.illustrate given).1.map Diagram.shown = .ok (Diagram.compose maker.title (toString r.line) r
        ((c.entries.lookup r.cacheKey).join.getD ⟨maker, r.value⟩).drawing).shown ∧
      (s.illustrate given).2.cache = (c.getOrCreate r.cacheKey fun _ =>
        (.ok (some ⟨maker, r.value⟩) : Except Fault (Option Sketch))).2.map Sketch.drawing := by
  obtain ⟨hire, hget, hpainter⟩ := h.exists_hire hmaker
  refine illustrate_of_paint hr hget ?_
  rw [hpainter, h.cache]
  exact Painter.paint_map maker c (Submission.isWritable_line_of_request hr)

theorem Follows.cache_submit (h : s.Follows turns c) (given : Submission) :
    (s.illustrate given).2.cache =
      (c.afterAll ((Turn.submit given).use? (latestMaker? turns)).toList).map Sketch.drawing := by
  cases hr : given.request with
  | error error =>
    rw [Turn.use?_submit_of_error hr]
    exact (cache_illustrate_of_error hr).trans h.cache
  | ok r =>
    rw [Turn.use?_submit_of_ok hr]
    cases hmaker : latestMaker? turns r.subject with
    | none => exact (cache_illustrate_of_unknown hr (h.get_eq_none hmaker)).trans h.cache
    | some maker => exact (h.illustrate hr hmaker).2

/-- One turn: the studio goes on following, with what the turn asks of the cache. -/
theorem Follows.turn (h : s.Follows turns c) (turn : Turn) :
    (s.after turn.event).Follows (turns ++ [turn])
      (c.afterAll (turn.use? (latestMaker? turns)).toList) where
  consistent := isConsistent_after h.consistent turn.event
  recipe name := by
    rw [recipe?_after, h.recipe, latestMaker?_concat]
    cases turn with
    | register other maker =>
      rw [Turn.event, Event.recipe?, Turn.maker?]
      split <;> rfl
    | submit given => rfl
  cache := by
    cases turn with
    | register name maker => exact h.cache
    | submit given => exact h.cache_submit given

/-- A run of turns. -/
theorem Follows.following (h : s.Follows before c) (turns : List Turn) :
    (s.following (turns.map Turn.event)).Follows (before ++ turns)
      (c.afterAll (usesAfter before turns)) := by
  induction turns generalizing s before c with
  | nil => rwa [List.append_nil]
  | cons turn turns ih =>
    rw [usesAfter, Cache.afterAll, List.foldl_append, List.append_cons]
    exact ih (h.turn turn)

theorem follows_opening (room : Nat) (clock : Clock) (journal : List Journal.Entry) :
    (⟨.empty, .empty room, clock, journal⟩ : Studio).Follows [] (.empty room) :=
  ⟨Roster.isConsistent_empty, fun _ => rfl, rfl⟩

/-- What the cache keeps is told by the history of the run. -/
theorem join_lookup_afterAll {room : Nat} (hroom : 1 ≤ room) (turns : List Turn) (key : String) :
    (((Cache.empty room).afterAll (usesAfter [] turns)).entries.lookup key).join =
      keptSketch? room turns key :=
  (followsHistory_afterAll hroom (usesAfter [] turns)).join_lookup key

/-- A use of the cache is that of a turn, by the painters of that time. -/
theorem exists_turn_of_mem_usesAfter {use : Use Fault Sketch} (h : use ∈ usesAfter before turns) :
    ∃ front turn back, turns = front ++ turn :: back ∧
      turn.use? (latestMaker? (before ++ front)) = some use := by
  induction turns generalizing before with
  | nil => cases h
  | cons turn turns ih =>
    rcases List.mem_append.1 h with h | h
    · exact ⟨[], turn, turns, rfl, by rw [List.append_nil]; exact Option.mem_toList.1 h⟩
    · obtain ⟨front, later, back, rfl, huse⟩ := ih h
      exact ⟨turn :: front, later, back, rfl, by rwa [List.append_cons]⟩

/-- What a turn asks of the cache is the drawing of a request with a painter. -/
theorem Turn.use?_eq_some {turn : Turn} {maker? : String → Option Subject} {use : Use Fault Sketch}
    (h : turn.use? maker? = some use) : ∃ given r maker, turn = .submit given ∧
      given.request = .ok r ∧ maker? r.subject = some maker ∧
      use = .getOrCreate r.cacheKey (.ok (some ⟨maker, r.value⟩)) := by
  cases turn with
  | register name maker => cases h
  | submit given =>
    cases hr : given.request with
    | error error =>
      rw [use?_submit_of_error hr] at h
      cases h
    | ok r =>
      rw [use?_submit_of_ok hr] at h
      obtain ⟨maker, hmaker, rfl⟩ := Option.map_eq_some_iff.1 h
      exact ⟨given, r, maker, rfl, hr, hmaker, rfl⟩

/-- The sketch that is kept was made for an earlier request with the same key, by the painter that
its subject had then. -/
theorem exists_submit_of_keptSketch? {room : Nat} {key : String} {kept : Sketch}
    (h : keptSketch? room turns key = some kept) :
    ∃ front given r back, turns = front ++ .submit given :: back ∧ given.request = .ok r ∧
      r.cacheKey = key ∧ latestMaker? front r.subject = some kept.maker ∧ r.value = kept.value := by
  unfold keptSketch? History.held? at h
  split at h
  · have hstored := mem_of_lookup (Option.join_eq_some_iff.1 h)
    rcases History.mem_uses_of_mem_stores (List.mem_reverse.1 hstored) with hmem | hmem
    · obtain ⟨front, turn, back, -, huse⟩ := exists_turn_of_mem_usesAfter hmem
      obtain ⟨given, r, maker, -, -, -, hput⟩ := Turn.use?_eq_some huse
      cases hput
    · obtain ⟨front, turn, back, hturns, huse⟩ := exists_turn_of_mem_usesAfter hmem
      obtain ⟨given, r, maker, rfl, hr, hmaker, hmade⟩ := Turn.use?_eq_some huse
      cases hmade
      exact ⟨front, given, r, back, hturns, hr, rfl, hmaker, rfl⟩
  · cases h

/-- The painters that names got in a run. -/
theorem mem_of_latestMaker? {name : String} (h : latestMaker? turns name = some maker) :
    .register name maker ∈ turns := by
  obtain ⟨turn, hturn, hmaker⟩ := List.exists_of_findSome?_eq_some h
  cases turn with
  | register other maker =>
    rw [Turn.maker?] at hmaker
    split at hmaker
    · next hname =>
      cases hmaker
      exact hname ▸ List.mem_reverse.1 hturn
    · cases hmaker
  | submit given => cases hmaker

/-- Where no name has a colon, the sketch that is kept was made for the value that is asked for. -/
theorem value_eq_of_keptSketch? {room : Nat} {kept : Sketch}
    (hnames : ∀ name maker, .register name maker ∈ turns → ':' ∉ name.toList)
    (hmaker : latestMaker? turns r.subject = some maker)
    (h : keptSketch? room turns r.cacheKey = some kept) : kept.value = r.value := by
  obtain ⟨front, given, first, back, rfl, -, hkey, hfirst, hvalue⟩ := exists_submit_of_keptSketch? h
  have hsubject := hnames _ _ (mem_of_latestMaker? hmaker)
  have hfirst := hnames _ _ (List.mem_append_left _ (mem_of_latestMaker? hfirst))
  exact hvalue ▸ (Request.cacheKey_inj hfirst hsubject hkey).2.2

theorem usesAfter_concat (turns : List Turn) (turn : Turn) :
    usesAfter before (turns ++ [turn]) =
      usesAfter before turns ++ (turn.use? (latestMaker? (before ++ turns))).toList := by
  induction turns generalizing before with
  | nil =>
    rw [List.append_nil]
    exact List.append_nil _
  | cons first turns ih =>
    rw [List.cons_append, usesAfter, usesAfter, ih, List.append_assoc, List.append_assoc,
      List.singleton_append]

/-- Another painter changes nothing in what is kept. -/
theorem keptSketch?_register (room : Nat) (turns : List Turn) (name : String) (maker : Subject)
    (key : String) :
    keptSketch? room (turns ++ [.register name maker]) key = keptSketch? room turns key := by
  rw [keptSketch?, usesAfter_concat, Turn.use?, Option.toList_none, List.append_nil, keptSketch?]

/-- What a request is shown is kept. -/
theorem keptSketch?_submit {room : Nat} (hroom : 1 ≤ room) (hr : given.request = .ok r)
    (hmaker : latestMaker? turns r.subject = some maker) :
    keptSketch? room (turns ++ [.submit given]) r.cacheKey =
      some ((keptSketch? room turns r.cacheKey).getD ⟨maker, r.value⟩) := by
  rw [keptSketch?, usesAfter_concat, List.nil_append, Turn.use?_submit_of_ok hr, hmaker,
    History.ofUses, Option.map_some, Option.toList_some, List.foldl_concat, ← History.ofUses]
  exact History.held?_getOrCreate hroom _ r.cacheKey _

/-- The answer after a run from the opening: a diagram with the sketch that is kept, or with the
painter's own. -/
theorem exists_answer {room : Nat} (hroom : 1 ≤ room) (clock : Clock) (journal : List Journal.Entry)
    (hr : given.request = .ok r) (hmaker : latestMaker? turns r.subject = some maker) :
    let s := (⟨.empty, .empty room, clock, journal⟩ : Studio).following (turns.map Turn.event)
    ∃ d, (s.illustrate given).1 = .ok d ∧ d.shown = (Diagram.compose maker.title (toString r.line) r
      ((keptSketch? room turns r.cacheKey).getD ⟨maker, r.value⟩).drawing).shown := by
  intro s
  have hs : s.Follows turns _ := (follows_opening room clock journal).following turns
  have hshown := (hs.illustrate hr hmaker).1
  rw [join_lookup_afterAll hroom] at hshown
  generalize (s.illustrate given).1 = answer at hshown ⊢
  cases answer with
  | error e => cases hshown
  | ok d => exact ⟨d, rfl, Except.ok.inj hshown⟩

/-- A painter who takes over a name goes on with the drawing that was shown before, whatever
happened until then. If another subject's painter made it, the diagram is not the new one's own. -/
theorem shown_of_takeover {room : Nat} (hroom : 1 ≤ room) (clock : Clock)
    (journal : List Journal.Entry) {first : Subject} (second : Subject)
    (hr : given.request = .ok r) (hfirst : latestMaker? turns r.subject = some first) :
    let later := turns ++ [.submit given] ++ [.register r.subject second]
    let s := (⟨.empty, .empty room, clock, journal⟩ : Studio).following (later.map Turn.event)
    let sketch := (keptSketch? room turns r.cacheKey).getD ⟨first, r.value⟩
    let own : Sketch := ⟨second, r.value⟩
    ∃ d, (s.illustrate given).1 = .ok d ∧
      d.shown = (Diagram.compose second.title (toString r.line) r sketch.drawing).shown ∧
      (sketch.maker ≠ second →
        d.text ≠ (Diagram.compose second.title (toString r.line) r own.drawing).text) := by
  intro later s sketch own
  have hsecond : latestMaker? later r.subject = some second := by
    rw [latestMaker?_concat, Turn.maker?, if_pos rfl, Option.some_or]
  obtain ⟨d, hd, hshown⟩ := exists_answer hroom clock journal hr hsecond
  rw [keptSketch?_register, keptSketch?_submit hroom hr hfirst] at hshown
  refine ⟨d, hd, hshown, fun hne h => hne ?_⟩
  rw [Diagram.text_congr hshown, Sketch.text_compose_inj] at h
  exact Sketch.maker_eq h

end Runs

/-- What is shown after a run in which names got painters of subjects, who all keep their drawings
in one cache. The painter that a name got last answers, with the drawing that the cache keeps under
the key of the request, whoever made it. This is what the painter shows without a cache exactly if
nothing is kept or the drawings are the same, which those of different subjects never are. -/
theorem shown_after_replacements {room : Nat} (hroom : 1 ≤ room) (clock : Clock)
    (journal : List Journal.Entry) (turns : List Turn) {given : Submission} {r : Request}
    {maker : Subject} (hr : given.request = .ok r)
    (hmaker : latestMaker? turns r.subject = some maker) :
    let s := (⟨.empty, .empty room, clock, journal⟩ : Studio).following (turns.map Turn.event)
    let own : Sketch := ⟨maker, r.value⟩
    let kept? := keptSketch? room turns r.cacheKey
    ∃ d alone : Diagram, (s.illustrate given).1 = .ok d ∧
      (∀ cache, ((Painter.ofSubject maker false).paint cache r).1 = .ok alone) ∧
      d.shown = (Diagram.compose maker.title (toString r.line) r (kept?.getD own).drawing).shown ∧
      (d.text = alone.text ↔ ∀ kept, kept? = some kept → kept.drawing = own.drawing) ∧
      (∀ kept, kept? = some kept → kept.maker ≠ maker → d.text ≠ alone.text) ∧
      ((∀ name maker, .register name maker ∈ turns → ':' ∉ name.toList) →
        (d.text = alone.text ↔ ∀ kept, kept? = some kept → kept.maker = maker)) ∧
      ∀ kept, kept? = some kept → ∃ front given r' back, turns = front ++ .submit given :: back ∧
        given.request = .ok r' ∧ r'.cacheKey = r.cacheKey ∧
        latestMaker? front r'.subject = some kept.maker ∧ r'.value = kept.value := by
  intro s own kept?
  obtain ⟨d, hd, hshown⟩ := exists_answer hroom clock journal hr hmaker
  have htext : d.text = (Diagram.compose maker.title (toString r.line) r own.drawing).text ↔
      ∀ kept, kept? = some kept → kept.drawing = own.drawing := by
    have hsketch : d.text =
        (Diagram.compose maker.title (toString r.line) r (kept?.getD own).drawing).text :=
      Diagram.text_congr hshown
    -- the title and the texts around are the same, so the drawings alone decide
    rw [hsketch, Sketch.text_compose_inj]
    cases hkept : kept? with
    | none => exact ⟨fun _ _ => nofun, fun _ => rfl⟩
    | some kept => exact ⟨fun h _ hk => Option.some.inj hk ▸ h, fun h => h kept rfl⟩
  have hline : Text.IsWritable r.line := Submission.isWritable_line_of_request hr
  refine ⟨d, .compose maker.title (toString r.line) r own.drawing, hd,
    fun cache => Painter.paint_alone maker cache hline, hshown, htext, ?_, ?_,
    fun kept hkept => exists_submit_of_keptSketch? hkept⟩
  · intro kept hkept hne h
    exact hne (Sketch.maker_eq (htext.1 h kept hkept))
  · intro hnames
    refine htext.trans (forall₂_congr fun kept hkept => ⟨Sketch.maker_eq, fun h => ?_⟩)
    have hvalue := value_eq_of_keptSketch? hnames hmaker hkept
    obtain ⟨keptMaker, value⟩ := kept
    subst h hvalue
    rfl

/-- A painter of fixed dimensions takes over a name after a diagram was shown, and shows the drawing
of the flex painter. -/
theorem shown_drawing_of_replaced :
    let r : Request := ⟨"flex-fragility", .low, 3, ".a", "flex", "0 0 9px", "", .other⟩
    let given : Submission := .draft r.toDraft
    let turns : List Turn := [.register "flex-fragility" .flexFragility, .submit given,
      .register "flex-fragility" .fixedDimensions]
    let s := (⟨.empty, .empty 100, ⟨.ofNat 0, 0⟩, []⟩ : Studio).following (turns.map Turn.event)
    let maker := Subject.fixedDimensions
    given.request = .ok r ∧ latestMaker? turns r.subject = some maker ∧
      ∃ d alone : Diagram, (s.illustrate given).1 = .ok d ∧
        (∀ cache, ((Painter.ofSubject maker false).paint cache r).1 = .ok alone) ∧
        d.shown = (Diagram.compose maker.title (toString r.line) r
          (⟨.flexFragility, "0 0 9px"⟩ : Sketch).drawing).shown ∧ d.text ≠ alone.text := by
  intro r given turns s maker
  have hr : given.request = .ok r :=
    Request.request_draft ⟨by decide, by decide, by decide, by decide⟩ (by decide +kernel)
  have hroom : 1 ≤ 100 := by decide
  have hfirst : latestMaker? [.register "flex-fragility" .flexFragility] r.subject =
      some .flexFragility := by decide
  obtain ⟨d, hd, hshown, htext⟩ := shown_of_takeover hroom ⟨.ofNat 0, 0⟩ [] maker hr hfirst
  have hline : Text.IsWritable r.line := Submission.isWritable_line_of_request hr
  exact ⟨hr, by decide, d,
    .compose maker.title (toString r.line) r (⟨maker, r.value⟩ : Sketch).drawing, hd,
    fun cache => Painter.paint_alone maker cache hline, hshown, htext nofun⟩

/-- Another painter of the same subject takes over, and the diagram is the right one. -/
theorem shown_after_replacements_same :
    let r : Request := ⟨"flex-fragility", .low, 3, ".a", "flex", "0 0 9px", "", .other⟩
    let given : Submission := .draft r.toDraft
    let turns : List Turn := [.register "flex-fragility" .flexFragility, .submit given,
      .register "flex-fragility" .flexFragility]
    let s := (⟨.empty, .empty 100, ⟨.ofNat 0, 0⟩, []⟩ : Studio).following (turns.map Turn.event)
    let maker := Subject.flexFragility
    given.request = .ok r ∧ latestMaker? turns r.subject = some maker ∧
      keptSketch? 100 turns r.cacheKey = some ⟨maker, r.value⟩ ∧
      ∃ d alone : Diagram, (s.illustrate given).1 = .ok d ∧
        (∀ cache, ((Painter.ofSubject maker false).paint cache r).1 = .ok alone) ∧
        d.text = alone.text := by
  intro r given turns s maker
  have hr : given.request = .ok r :=
    Request.request_draft ⟨by decide, by decide, by decide, by decide⟩ (by decide +kernel)
  have hroom : 1 ≤ 100 := by decide
  have hmaker : latestMaker? turns r.subject = some maker := by decide
  have hkept : keptSketch? 100 turns r.cacheKey = some ⟨maker, r.value⟩ := by
    have hfirst : latestMaker? [.register "flex-fragility" maker] r.subject = some maker := by
      decide
    have hturns : turns = [.register "flex-fragility" maker] ++ [.submit given] ++
        [.register "flex-fragility" maker] := rfl
    rw [hturns, keptSketch?_register, keptSketch?_submit hroom hr hfirst]
    rfl
  obtain ⟨d, alone, hd, halone, -, htext, -⟩ :=
    shown_after_replacements hroom ⟨.ofNat 0, 0⟩ [] turns hr hmaker
  refine ⟨hr, hmaker, hkept, d, alone, hd, halone, htext.2 fun kept h => ?_⟩
  rw [Option.some.inj (h.symm.trans hkept)]

end Studio

end Reflow
