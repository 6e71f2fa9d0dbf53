import Reflow.Proofs.Binary64
import Reflow.Proofs.Datum
import Reflow.Report.Projection

/-!
# Requests handed in as drafts

A draft is read or refused, or it is neither: its line may be past all doubles, and a bad line or
the suggestion may hold an integer with too many digits to be written.

* `Request.request_toDraft`: a request whose texts are all given is read back as it is, unless its
  line is past all doubles.
* `Draft.request_eq_ok_iff`: the request of a draft, field by field.
* `Draft.request_eq_lineTooLarge_iff`, `Draft.request_eq_unwritable_iff`: the drafts that are
  neither read nor refused. `Submission.HasEndlessLine`, `Submission.HasUnwritable`: the submissions
  that are not.
* `Draft.isWritable_line_of_request`: the line of a request that was read can be written.
* `Finding.isComplete_request`: the requests of findings, whose gaps are filled in.
-/

namespace Reflow

open Text

theorem Severity.parse_name (s : Severity) : parse s.name = .ok s := by
  have hlower : String.ofList (Text.lower (Text.trim s.name.toList)) = s.name := by
    cases s <;> decide +kernel
  have hfind : all.find? (·.name = s.name) = some s := by cases s <;> decide
  rw [parse, hlower, hfind]

theorem Severity.parse_eq_ok_iff {text : String} {severity : Severity} :
    parse text = .ok severity ↔ severity.name = String.ofList (lower (trim text.toList)) := by
  have hfind : all.find? (·.name = severity.name) = some severity := by cases severity <;> decide
  unfold parse
  dsimp only
  generalize String.ofList (lower (trim text.toList)) = given
  constructor
  · intro h
    split at h
    · next found hfound =>
      cases h
      simpa using List.find?_some hfound
    · cases h
  · rintro rfl
    rw [hfind]

theorem Category.ofName?_name (c : Category) : ofName? c.name = some c := by
  cases c <;> decide

theorem Category.ofName?_eq_some_iff {name : String} {category : Category} :
    ofName? name = some category ↔ category.name = name := by
  constructor
  · intro h
    simpa using List.find?_some h
  · rintro rfl
    exact category.ofName?_name

theorem Severity.name_ne_empty (s : Severity) : s.name ≠ "" := by
  cases s <;> decide

/-! ## Fields of a draft -/

namespace Draft

variable {d : Draft} {r : Request} {given : Datum} {n : Int} {e : RequestError}

/-- An integer from half a step after the greatest double on. -/
def IsEndless (n : Int) : Prop := Binary64.twoPow 1024 ≤ n.natAbs + Binary64.twoPow 970

theorem isEndless_iff : IsEndless n ↔ ¬ (Binary64.ofInt n).isFinite :=
  Nat.not_lt.symm.trans (not_congr (Binary64.isFinite_ofInt_iff n).symm)

/-- An integer that a double holds has 309 digits at most. -/
theorem isWritable_of_not_isEndless (h : ¬ IsEndless n) : IsWritable n := by
  have hlimit : Binary64.twoPow 1024 ≤ Nat.pow 10 digitLimit := by decide +kernel
  unfold IsEndless at h
  exact isWritable_iff.2 (by omega)

theorem isMissing_iff : isMissing given ↔ given = .null ∨ given = .text "" := by
  cases given with
  | text s => simp [isMissing]
  | _ => simp [isMissing]

theorem missing_eq_nil_iff : d.missing = [] ↔ ∀ e ∈ d.required, ¬ isMissing e.2 := by
  simp only [missing, List.map_eq_nil_iff, List.filter_eq_nil_iff]

theorem readText_eq_ok_iff {name s : String} : readText name given = .ok s ↔ given = .text s := by
  cases given <;> simp [readText]

theorem readLine_eq_ok_iff :
    readLine given = .ok n ↔ given.integer? = some n ∧ ¬ IsEndless n := by
  unfold readLine
  rw [isEndless_iff, not_not]
  cases given.integer? with
  | none =>
    refine iff_of_false ?_ nofun
    cases given.shown <;> exact nofun
  | some m =>
    by_cases hm : (Binary64.ofInt m).isFinite
    · simp only [hm, if_true, Except.ok.injEq, Option.some.injEq]
      exact ⟨fun h => ⟨h, h ▸ hm⟩, And.left⟩
    · simp only [hm]
      refine iff_of_false nofun ?_
      rintro ⟨h, hn⟩
      cases h
      exact hm hn

theorem readLine_eq_lineTooLarge_iff :
    readLine given = .error .lineTooLarge ↔ ∃ n, given.integer? = some n ∧ IsEndless n := by
  unfold readLine
  simp only [isEndless_iff]
  cases given.integer? with
  | none =>
    refine iff_of_false ?_ nofun
    cases given.shown <;> exact nofun
  | some m =>
    by_cases hm : (Binary64.ofInt m).isFinite <;> simp [hm]

theorem readLine_eq_unwritable_iff {cause : DigitError} :
    readLine given = .error (.unwritable cause) ↔
      given.integer? = none ∧ ¬ given.IsWritten ∧ cause = .unwritable := by
  unfold readLine
  rw [← Datum.shown_eq_error_iff]
  cases given.integer? with
  | none => cases given.shown <;> simp
  | some m => by_cases hm : (Binary64.ofInt m).isFinite <;> simp [hm]

theorem readSeverity_eq_ok_iff {severity : Severity} :
    readSeverity given = .ok severity ↔ ∃ text, given.plainText = .ok text ∧
      severity.name = String.ofList (lower (trim text.toList)) := by
  simp only [← Severity.parse_eq_ok_iff]
  unfold readSeverity
  cases given.plainText with
  | error cause => simp
  | ok text => cases h : Severity.parse text <;> simp [h]

theorem readCategory_eq_ok_iff {category : Category} :
    readCategory given = .ok category ↔ given = .text category.name := by
  have hname : categoryIn? given = some category ↔ given = .text category.name := by
    cases given with
    | text name => rw [categoryIn?, Category.ofName?_eq_some_iff, Datum.text.injEq, eq_comm]
    | _ => simp [categoryIn?]
  rw [← hname, readCategory]
  cases categoryIn? given with
  | some found => simp
  | none => cases given.shown <;> simp

theorem readSuggestion_eq_ok_iff {text : String} :
    readSuggestion given = .ok text ↔ given.plainText = .ok text := mapError_eq_ok_iff

/-- The request of a draft, field by field. -/
theorem request_eq_ok_iff : d.request = .ok r ↔
    d.missing = [] ∧ readLine d.line = .ok r.line ∧ d.subject = .text r.subject ∧
      d.selector = .text r.selector ∧ d.property = .text r.property ∧ d.value = .text r.value ∧
      readSeverity d.severity = .ok r.severity ∧ readCategory d.category = .ok r.category ∧
      d.suggestion.plainText = .ok r.suggestion := by
  unfold request
  by_cases hmissing : d.missing = []
  · rw [hmissing, and_iff_right rfl]
    refine bind_eq_ok_iff.trans ?_
    constructor
    · rintro ⟨line, hline, h⟩
      obtain ⟨subject, hsubject, h⟩ := bind_eq_ok_iff.1 h
      obtain ⟨selector, hselector, h⟩ := bind_eq_ok_iff.1 h
      obtain ⟨property, hproperty, h⟩ := bind_eq_ok_iff.1 h
      obtain ⟨value, hvalue, h⟩ := bind_eq_ok_iff.1 h
      obtain ⟨severity, hseverity, h⟩ := bind_eq_ok_iff.1 h
      obtain ⟨category, hcategory, h⟩ := bind_eq_ok_iff.1 h
      obtain ⟨suggestion, hsuggestion, h⟩ := bind_eq_ok_iff.1 h
      cases h
      exact ⟨hline, readText_eq_ok_iff.1 hsubject, readText_eq_ok_iff.1 hselector,
        readText_eq_ok_iff.1 hproperty, readText_eq_ok_iff.1 hvalue, hseverity, hcategory,
        readSuggestion_eq_ok_iff.1 hsuggestion⟩
    · rintro ⟨hline, hsubject, hselector, hproperty, hvalue, hseverity, hcategory, hsuggestion⟩
      refine ⟨_, hline, bind_eq_ok_iff.2 ⟨_, readText_eq_ok_iff.2 hsubject, ?_⟩⟩
      refine bind_eq_ok_iff.2 ⟨_, readText_eq_ok_iff.2 hselector, ?_⟩
      refine bind_eq_ok_iff.2 ⟨_, readText_eq_ok_iff.2 hproperty, ?_⟩
      refine bind_eq_ok_iff.2 ⟨_, readText_eq_ok_iff.2 hvalue, ?_⟩
      refine bind_eq_ok_iff.2 ⟨_, hseverity, bind_eq_ok_iff.2 ⟨_, hcategory, ?_⟩⟩
      exact bind_eq_ok_iff.2 ⟨_, readSuggestion_eq_ok_iff.2 hsuggestion, rfl⟩
  · rw [show d.missing.isEmpty = false by simpa using hmissing]
    exact iff_of_false nofun fun h => hmissing h.1

end Draft

/-! ## Requests as drafts -/

namespace Request

/-- A request whose required texts are all given. -/
structure IsComplete (r : Request) : Prop where
  subject : r.subject ≠ ""
  selector : r.selector ≠ ""
  property : r.property ≠ ""
  value : r.value ≠ ""

theorem request_toDraft {r : Request} (h : r.IsComplete) :
    r.toDraft.request =
      if (Binary64.ofInt r.line).isFinite then .ok r else .error .lineTooLarge := by
  have hmissing : r.toDraft.missing = [] := by
    rw [Draft.missing, List.map_eq_nil_iff, List.filter_eq_nil_iff]
    intro e he
    simp only [Draft.required, toDraft, List.mem_cons, List.not_mem_nil, or_false] at he
    rcases he with rfl | rfl | rfl | rfl | rfl | rfl
    · simpa [Draft.isMissing] using h.subject
    · simpa [Draft.isMissing] using r.severity.name_ne_empty
    · simp [Draft.isMissing]
    · simpa [Draft.isMissing] using h.selector
    · simpa [Draft.isMissing] using h.property
    · simpa [Draft.isMissing] using h.value
  have hline : Draft.readLine r.toDraft.line =
      if (Binary64.ofInt r.line).isFinite then .ok r.line else .error .lineTooLarge := rfl
  have hseverity : Draft.readSeverity r.toDraft.severity = .ok r.severity :=
    Draft.readSeverity_eq_ok_iff.2 ⟨_, rfl, Severity.parse_eq_ok_iff.1 r.severity.parse_name⟩
  have hcategory : Draft.readCategory r.toDraft.category = .ok r.category :=
    Draft.readCategory_eq_ok_iff.2 rfl
  unfold Draft.request
  rw [hmissing, hline, hseverity, hcategory]
  split
  · rfl
  · rfl

/-- A request whose line a double can hold may be handed in as a draft. -/
theorem request_draft {r : Request} (h : r.IsComplete) (hline : (Binary64.ofInt r.line).isFinite) :
    (Submission.draft r.toDraft).request = .ok r :=
  (request_toDraft h).trans (if_pos hline)

end Request

/-! ## What was read -/

/-- The error is a refusal, which is shown in a diagram. -/
inductive RequestError.IsRefusal : RequestError → Prop
  | refused (cause : Refusal) : IsRefusal (.refused cause)

theorem RequestError.not_isRefusal_lineTooLarge : ¬ lineTooLarge.IsRefusal := nofun

theorem RequestError.not_isRefusal_unwritable (cause : DigitError) :
    ¬ (unwritable cause).IsRefusal := nofun

namespace Draft

variable {d : Draft} {r : Request} {given : Datum} {e : RequestError}

theorem isComplete_of_request (h : d.request = .ok r) : r.IsComplete := by
  obtain ⟨hmissing, -, hsubject, hselector, hproperty, hvalue, -⟩ := request_eq_ok_iff.1 h
  have hgiven (name : String) {text : String} (hmem : (name, .text text) ∈ d.required) :
      text ≠ "" := by
    rintro rfl
    exact missing_eq_nil_iff.1 hmissing _ hmem rfl
  simp only [required, hsubject, hselector, hproperty, hvalue] at hgiven
  exact ⟨hgiven "type" (by simp), hgiven "selector" (by simp), hgiven "property" (by simp),
    hgiven "value" (by simp)⟩

/-- A line that was read is one that a double holds. -/
theorem not_isEndless_line_of_request (h : d.request = .ok r) : ¬ IsEndless r.line :=
  (readLine_eq_ok_iff.1 (request_eq_ok_iff.1 h).2.1).2

theorem isWritable_line_of_request (h : d.request = .ok r) : IsWritable r.line :=
  isWritable_of_not_isEndless (not_isEndless_line_of_request h)

/-- What was read is read back. -/
theorem request_toDraft_of_request (h : d.request = .ok r) : r.toDraft.request = .ok r := by
  rw [Request.request_toDraft (isComplete_of_request h), if_pos]
  exact not_not.1 (mt isEndless_iff.2 (not_isEndless_line_of_request h))

/-- A suggestion that counts as given is kept. -/
theorem suggestion_ofFields {entries : List (String × Datum)}
    (h : (Datum.field entries "suggestion").isVoid = false) :
    (ofFields entries).suggestion = Datum.field entries "suggestion" :=
  if_neg (Bool.not_eq_true _ ▸ h)

/-! ## Neither read nor refused -/

/-- All required fields are there, and the line is a number whose integer part no double can hold.
Of a double itself that is never true. -/
def HasEndlessLine (d : Draft) : Prop :=
  d.missing = [] ∧ ∃ n, d.line.integer? = some n ∧ IsEndless n

/-- All required fields are there, and the line is no number and not written, or everything else is
in order and the suggestion is not written. -/
inductive HasUnwritable (d : Draft) : Prop
  | line (hgiven : d.missing = []) (hline : d.line.integer? = none) (h : ¬ d.line.IsWritten)
  | suggestion {r : Request} (hrest : { d with suggestion := .text "" }.request = .ok r)
      (h : ¬ d.suggestion.IsWritten)

theorem isRefusal_of_readText {name : String} (h : readText name given = .error e) :
    e.IsRefusal := by
  unfold readText at h
  split at h
  · cases h
  · cases h
    exact .refused _

theorem isRefusal_of_readSeverity (h : readSeverity given = .error e) : e.IsRefusal := by
  unfold readSeverity at h
  split at h
  · cases h
    exact .refused _
  · split at h
    · cases h
    · cases h
      exact .refused _

theorem isRefusal_of_readCategory (h : readCategory given = .error e) : e.IsRefusal := by
  unfold readCategory at h
  split at h
  · cases h
  · split at h
    · cases h
      exact .refused _
    · cases h
      exact .refused _

/-- Where only a refusal can be the error of the first step, another error is that of the second. -/
theorem exists_of_bind_eq_error {α β : Type} {x : Except RequestError α}
    {next : α → Except RequestError β} (hx : ∀ {e}, x = .error e → e.IsRefusal)
    (he : ¬ e.IsRefusal) (h : x >>= next = .error e) : ∃ a, x = .ok a ∧ next a = .error e :=
  (bind_eq_error_iff.1 h).resolve_left fun h => he (hx h)

/-- What is neither read nor refused has a line that is not, or a suggestion that is not, and
everything else is in order. -/
theorem request_eq_error_iff (he : ¬ e.IsRefusal) :
    d.request = .error e ↔ d.missing = [] ∧ (readLine d.line = .error e ∨
      (∃ r, { d with suggestion := .text "" }.request = .ok r) ∧
        readSuggestion d.suggestion = .error e) := by
  by_cases hmissing : d.missing = []
  · rw [and_iff_right hmissing]
    unfold request
    rw [hmissing]
    refine bind_eq_error_iff.trans (or_congr_right ⟨?_, ?_⟩)
    · rintro ⟨line, hline, h⟩
      obtain ⟨subject, hsubject, h⟩ := exists_of_bind_eq_error isRefusal_of_readText he h
      obtain ⟨selector, hselector, h⟩ := exists_of_bind_eq_error isRefusal_of_readText he h
      obtain ⟨property, hproperty, h⟩ := exists_of_bind_eq_error isRefusal_of_readText he h
      obtain ⟨value, hvalue, h⟩ := exists_of_bind_eq_error isRefusal_of_readText he h
      obtain ⟨severity, hseverity, h⟩ := exists_of_bind_eq_error isRefusal_of_readSeverity he h
      obtain ⟨category, hcategory, h⟩ := exists_of_bind_eq_error isRefusal_of_readCategory he h
      have hrest : { d with suggestion := .text "" }.request =
          .ok ⟨subject, severity, line, selector, property, value, "", category⟩ :=
        request_eq_ok_iff.2 ⟨hmissing, hline, readText_eq_ok_iff.1 hsubject,
          readText_eq_ok_iff.1 hselector, readText_eq_ok_iff.1 hproperty,
          readText_eq_ok_iff.1 hvalue, hseverity, hcategory, rfl⟩
      exact ⟨⟨_, hrest⟩, bind_pure_eq_error_iff.1 h⟩
    · rintro ⟨⟨r, hr⟩, hsuggestion⟩
      obtain ⟨-, hline, hsubject, hselector, hproperty, hvalue, hseverity, hcategory, -⟩ :=
        request_eq_ok_iff.1 hr
      refine ⟨r.line, hline, ?_⟩
      rw [readText_eq_ok_iff.2 hsubject, readText_eq_ok_iff.2 hselector,
        readText_eq_ok_iff.2 hproperty, readText_eq_ok_iff.2 hvalue, hseverity, hcategory,
        hsuggestion]
      rfl
  · unfold request
    rw [show d.missing.isEmpty = false by simpa using hmissing]
    refine iff_of_false (fun h => he ?_) fun h => hmissing h.1
    cases h
    exact .refused _

theorem request_eq_lineTooLarge_iff : d.request = .error .lineTooLarge ↔ d.HasEndlessLine := by
  rw [request_eq_error_iff RequestError.not_isRefusal_lineTooLarge, readLine_eq_lineTooLarge_iff,
    HasEndlessLine, or_iff_left]
  rintro ⟨-, h⟩
  obtain ⟨cause, -, h⟩ := mapError_eq_error_iff.1 h
  cases h

theorem request_eq_unwritable_iff {cause : DigitError} :
    d.request = .error (.unwritable cause) ↔ d.HasUnwritable ∧ cause = .unwritable := by
  have hsuggestion : readSuggestion d.suggestion = .error (.unwritable cause) ↔
      ¬ d.suggestion.IsWritten ∧ cause = .unwritable := by
    rw [readSuggestion, mapError_eq_error_iff, ← Datum.plainText_eq_error_iff]
    simp
  rw [request_eq_error_iff (RequestError.not_isRefusal_unwritable _), readLine_eq_unwritable_iff,
    hsuggestion]
  constructor
  · rintro ⟨hmissing, ⟨hline, h, rfl⟩ | ⟨⟨r, hr⟩, h, rfl⟩⟩
    · exact ⟨.line hmissing hline h, rfl⟩
    · exact ⟨.suggestion hr h, rfl⟩
  · rintro ⟨⟨hmissing, hline, h⟩ | ⟨hr, h⟩, rfl⟩
    · exact ⟨hmissing, .inl ⟨hline, h, rfl⟩⟩
    · exact ⟨(request_eq_ok_iff.1 hr).1, .inr ⟨⟨_, hr⟩, h, rfl⟩⟩

end Draft

namespace Submission

variable {given : Submission} {e : RequestError}

/-- The draft that a submission is read as, if it has fields. -/
def draft? : Submission → Option Draft
  | loose (.fields entries) => some (Draft.ofFields entries)
  | loose _ => none
  | draft given => some given

/-- The draft of a submission has a line past all doubles. -/
def HasEndlessLine (given : Submission) : Prop := ∃ d, given.draft? = some d ∧ d.HasEndlessLine

/-- The draft of a submission holds an integer that has to be written and has too many digits. -/
def HasUnwritable (given : Submission) : Prop := ∃ d, given.draft? = some d ∧ d.HasUnwritable

theorem exists_draft_of_request {r : Request} (h : given.request = .ok r) :
    ∃ d, given.draft? = some d ∧ d.request = .ok r := by
  cases given with
  | draft d => exact ⟨d, rfl, h⟩
  | loose value =>
    cases value with
    | fields entries => exact ⟨Draft.ofFields entries, rfl, h⟩
    | _ => cases h

/-- Without fields a submission is refused. -/
theorem request_eq_error_iff (he : ¬ e.IsRefusal) :
    given.request = .error e ↔ ∃ d, given.draft? = some d ∧ d.request = .error e := by
  have hfields (d : Draft) :
      d.request = .error e ↔ ∃ d', some d = some d' ∧ d'.request = .error e := by
    simp
  cases given with
  | draft d => exact hfields d
  | loose value =>
    cases value with
    | fields entries => exact hfields _
    | _ =>
      refine iff_of_false (fun h => he ?_) nofun
      cases h
      exact .refused _

theorem request_eq_lineTooLarge_iff :
    given.request = .error .lineTooLarge ↔ given.HasEndlessLine := by
  rw [request_eq_error_iff RequestError.not_isRefusal_lineTooLarge]
  simp only [Draft.request_eq_lineTooLarge_iff, HasEndlessLine]

theorem request_eq_unwritable_iff {cause : DigitError} :
    given.request = .error (.unwritable cause) ↔ given.HasUnwritable ∧ cause = .unwritable := by
  rw [request_eq_error_iff (RequestError.not_isRefusal_unwritable _)]
  simp only [Draft.request_eq_unwritable_iff, HasUnwritable, ← and_assoc, exists_and_right]

theorem isWritable_line_of_request {r : Request} (h : given.request = .ok r) :
    IsWritable r.line := by
  obtain ⟨d, -, hd⟩ := exists_draft_of_request h
  exact Draft.isWritable_line_of_request hd

end Submission

/-! ## Requests of findings -/

theorem givenOr_ne_empty {standard : String} (h : standard ≠ "") (text : String) :
    givenOr standard text ≠ "" := by
  unfold givenOr
  split
  · exact h
  · next ht => simpa using ht

/-- The request of a finding has no gaps. -/
theorem Finding.isComplete_request {f : Finding} {r : Request} (h : f.request? = some r) :
    r.IsComplete := by
  obtain ⟨subject, -, rfl⟩ := Option.map_eq_some_iff.1 h
  have hname : subject.name ≠ "" := by cases subject <;> decide
  exact ⟨hname, givenOr_ne_empty (by decide) _, givenOr_ne_empty (by decide) _,
    givenOr_ne_empty (by decide) _⟩

end Reflow
