import Reflow.Proofs.Diagram.Request

/-!
# Well-formed requests

Which fields make up a request, said without the order of the checks, and what the request holds
then. A request that was read is complete and its line is one that a double holds. So it is read
back as it is, as a draft and as fields, however often.

* `AreWellFormed`, `Request.IsReadFrom`: fields that make up a request, and what it takes from them.
* `Submission.request_wellFormed`: exactly the well-formed fields are accepted, the others are
  refused, and what is accepted is a fixed point. Only an integer with too many digits to be written
  makes a difference.
-/

namespace Reflow

open Text

/-- The fields of a request. -/
def Request.toFields (r : Request) : List (String × Datum) := [
  ("type", .text r.subject), ("severity", .text r.severity.name), ("line", .int r.line),
  ("selector", .text r.selector), ("property", .text r.property), ("value", .text r.value),
  ("suggestion", .text r.suggestion), ("category", .text r.category.name)]

theorem Draft.ofFields_toFields (r : Request) : Draft.ofFields r.toFields = r.toDraft := by
  have hsuggestion : (if (Datum.text r.suggestion).isVoid then .text "" else .text r.suggestion) =
      Datum.text r.suggestion := by
    by_cases h : r.suggestion = "" <;> simp [Datum.isVoid, h]
  have hcategory : (Datum.text r.category.name).isVoid = false := by cases r.category <;> decide
  have hfields : Draft.ofFields r.toFields =
      { r.toDraft with
        suggestion := if (Datum.text r.suggestion).isVoid then .text "" else .text r.suggestion
        category := if (Datum.text r.category.name).isVoid then .text Category.other.name
          else .text r.category.name } := rfl
  rw [hfields, hsuggestion, hcategory]
  rfl

/-! ## Fields that make up a request -/

section Fields

open Datum

variable {entries : List (String × Datum)} {r : Request}

/-- Fields that make up a request: the required ones are there and neither nothing nor an empty
text, the line is a number and no infinite or undefined one, the texts are texts, the severity reads
as one up to case and blanks, and the category counts as not given or is one. -/
structure AreWellFormed (entries : List (String × Datum)) : Prop where
  given : ∀ name ∈ ["type", "severity", "line", "selector", "property", "value"],
    ∃ value, entries.lookup name = some value ∧ value ≠ .null ∧ value ≠ .text ""
  line : (∃ n, field entries "line" = .int n) ∨
    ∃ x : Binary64, field entries "line" = .number x ∧ x.isFinite
  texts : ∀ name ∈ ["type", "selector", "property", "value"], ∃ s, field entries name = .text s
  severity : ∃ text, (field entries "severity").plainText = .ok text ∧
    String.ofList (lower (trim text.toList)) ∈ ["critical", "medium", "low"]
  category : (field entries "category").isVoid ∨
    ∃ name ∈ ["flex", "grid", "overflow", "other"], field entries "category" = .text name

/-- The request holds what the fields say: the texts as they are, the line without a fraction, the
severity by its name, and the standard suggestion and category where none is given. -/
structure Request.IsReadFrom (r : Request) (entries : List (String × Datum)) : Prop where
  subject : field entries "type" = .text r.subject
  selector : field entries "selector" = .text r.selector
  property : field entries "property" = .text r.property
  value : field entries "value" = .text r.value
  line : field entries "line" = .int r.line ∨
    ∃ x : Binary64, field entries "line" = .number x ∧ x.truncate? = some r.line
  severity : ∃ text, (field entries "severity").plainText = .ok text ∧
    r.severity.name = String.ofList (lower (trim text.toList))
  suggestion : if (field entries "suggestion").isVoid then r.suggestion = ""
    else (field entries "suggestion").plainText = .ok r.suggestion
  category : if (field entries "category").isVoid then r.category = .other
    else field entries "category" = .text r.category.name

theorem Draft.isReadFrom_of_request (h : (Draft.ofFields entries).request = .ok r) :
    r.IsReadFrom entries := by
  obtain ⟨-, hline, hsubject, hselector, hproperty, hvalue, hseverity, hcategory, hsuggestion⟩ :=
    Draft.request_eq_ok_iff.1 h
  refine ⟨hsubject, hselector, hproperty, hvalue, ?_, readSeverity_eq_ok_iff.1 hseverity, ?_, ?_⟩
  · exact integer?_eq_some_iff.1 (readLine_eq_ok_iff.1 hline).1
  · rw [ofFields] at hsuggestion
    dsimp only at hsuggestion
    split at hsuggestion
    · next hvoid =>
      rw [if_pos hvoid]
      exact (Except.ok.inj hsuggestion).symm
    · next hvoid => rw [if_neg hvoid, hsuggestion]
  · have hname := readCategory_eq_ok_iff.1 hcategory
    rw [ofFields] at hname
    dsimp only at hname
    split at hname
    · next hvoid =>
      rw [if_pos hvoid]
      have hother : Category.other.name = r.category.name := Datum.text.inj hname
      revert hother
      cases r.category <;> decide
    · next hvoid => rw [if_neg hvoid, hname]

/-- A field that is not missing is there and holds something. -/
theorem not_isMissing_field_iff {name : String} : ¬ Draft.isMissing (field entries name) ↔
    ∃ value, entries.lookup name = some value ∧ value ≠ .null ∧ value ≠ .text "" := by
  rw [Draft.isMissing_iff, not_or, field]
  cases entries.lookup name <;> simp

theorem Draft.missing_ofFields_eq_nil_iff : (Draft.ofFields entries).missing = [] ↔
    ∀ name ∈ ["type", "severity", "line", "selector", "property", "value"],
      ∃ value, entries.lookup name = some value ∧ value ≠ .null ∧ value ≠ .text "" := by
  have hrequired : (Draft.ofFields entries).required =
      ["type", "severity", "line", "selector", "property", "value"].map
        fun name => (name, field entries name) := rfl
  rw [missing_eq_nil_iff, hrequired, List.forall_mem_map]
  simp only [not_isMissing_field_iff]

theorem Severity.exists_name_eq_iff {text : String} :
    (∃ severity : Severity, severity.name = text) ↔ text ∈ ["critical", "medium", "low"] := by
  constructor
  · rintro ⟨severity, rfl⟩
    cases severity <;> decide
  · intro h
    simp only [List.mem_cons, List.not_mem_nil, or_false] at h
    rcases h with rfl | rfl | rfl
    exacts [⟨.critical, rfl⟩, ⟨.medium, rfl⟩, ⟨.low, rfl⟩]

theorem Category.exists_name_eq_iff {text : String} :
    (∃ category : Category, category.name = text) ↔
      text ∈ ["flex", "grid", "overflow", "other"] := by
  constructor
  · rintro ⟨category, rfl⟩
    cases category <;> decide
  · intro h
    simp only [List.mem_cons, List.not_mem_nil, or_false] at h
    rcases h with rfl | rfl | rfl | rfl
    exacts [⟨.flex, rfl⟩, ⟨.grid, rfl⟩, ⟨.overflow, rfl⟩, ⟨.other, rfl⟩]

theorem Draft.areWellFormed_of_request (h : (Draft.ofFields entries).request = .ok r) :
    AreWellFormed entries := by
  have hread := isReadFrom_of_request h
  refine ⟨missing_ofFields_eq_nil_iff.1 (request_eq_ok_iff.1 h).1, ?_, ?_, ?_, ?_⟩
  · refine hread.line.imp (fun hn => ⟨_, hn⟩) fun ⟨x, hx, htruncate⟩ => ⟨x, hx, ?_⟩
    cases x <;> first | rfl | cases htruncate
  · simp only [List.mem_cons, List.not_mem_nil, or_false, forall_eq_or_imp, forall_eq]
    exact ⟨⟨_, hread.subject⟩, ⟨_, hread.selector⟩, ⟨_, hread.property⟩, ⟨_, hread.value⟩⟩
  · obtain ⟨text, htext, hname⟩ := hread.severity
    exact ⟨text, htext, Severity.exists_name_eq_iff.1 ⟨_, hname⟩⟩
  · have hcategory := hread.category
    split at hcategory
    · next hvoid => exact .inl hvoid
    · exact .inr ⟨_, Category.exists_name_eq_iff.1 ⟨_, rfl⟩, hcategory⟩

theorem Draft.isWritten_suggestion_of_request (h : (Draft.ofFields entries).request = .ok r) :
    (field entries "suggestion").IsWritten := by
  have hsuggestion := (isReadFrom_of_request h).suggestion
  split at hsuggestion
  · next hvoid => exact isWritten_of_isVoid hvoid
  · exact exists_plainText_iff.1 ⟨_, hsuggestion⟩

theorem Draft.exists_request_of_areWellFormed (h : AreWellFormed entries)
    (hline : ∀ n, (field entries "line").integer? = some n → ¬ IsEndless n)
    (hwritten : (field entries "suggestion").IsWritten) :
    ∃ r, (Draft.ofFields entries).request = .ok r := by
  have htexts := h.texts
  simp only [List.mem_cons, List.not_mem_nil, or_false, forall_eq_or_imp, forall_eq] at htexts
  obtain ⟨⟨subject, hsubject⟩, ⟨selector, hselector⟩, ⟨property, hproperty⟩, value, hvalue⟩ :=
    htexts
  obtain ⟨text, htext, hnamed⟩ := h.severity
  obtain ⟨severity, hseverity⟩ := Severity.exists_name_eq_iff.2 hnamed
  obtain ⟨line, hread⟩ : ∃ line, (field entries "line").integer? = some line := by
    rcases h.line with ⟨n, hn⟩ | ⟨x, hx, hfinite⟩
    · exact ⟨n, integer?_eq_some_iff.2 (.inl hn)⟩
    · cases x with
      | finite negative units => exact ⟨_, integer?_eq_some_iff.2 (.inr ⟨_, hx, rfl⟩)⟩
      | infinite negative => cases hfinite
      | nan => cases hfinite
  obtain ⟨category, hcategory⟩ :
      ∃ category, readCategory (Draft.ofFields entries).category = .ok category := by
    rw [ofFields]
    dsimp only
    rcases h.category with hvoid | ⟨name, hname, hgiven⟩
    · rw [if_pos hvoid]
      exact ⟨.other, readCategory_eq_ok_iff.2 rfl⟩
    · obtain ⟨category, rfl⟩ := Category.exists_name_eq_iff.2 hname
      have hvoid : (field entries "category").isVoid = false := by
        rw [hgiven]
        cases category <;> decide
      rw [hvoid]
      exact ⟨category, readCategory_eq_ok_iff.2 hgiven⟩
  obtain ⟨suggestion, hsuggestion⟩ :
      ∃ suggestion, (Draft.ofFields entries).suggestion.plainText = .ok suggestion := by
    rw [ofFields]
    dsimp only
    split
    · exact ⟨"", rfl⟩
    · exact exists_plainText_iff.2 hwritten
  exact ⟨⟨subject, severity, line, selector, property, value, suggestion, category⟩,
    request_eq_ok_iff.2 ⟨missing_ofFields_eq_nil_iff.2 h.given,
      readLine_eq_ok_iff.2 ⟨hread, hline line hread⟩, hsubject, hselector, hproperty, hvalue,
      readSeverity_eq_ok_iff.2 ⟨text, htext, hseverity⟩, hcategory, hsuggestion⟩⟩

end Fields

/-! ## Submissions -/

namespace Submission

open Datum

variable {entries : List (String × Datum)}

/-- The line is no integer past all doubles, and no double has such an integer part. -/
theorem not_isEndless_of_integer? (hline : ∀ n, field entries "line" = .int n → ¬ Draft.IsEndless n)
    (hdouble : ∀ x, field entries "line" = .number x → x.IsDouble) {n : Int}
    (h : (field entries "line").integer? = some n) : ¬ Draft.IsEndless n := by
  rcases integer?_eq_some_iff.1 h with hn | ⟨x, hx, htruncate⟩
  · exact hline n hn
  · rw [Draft.isEndless_iff, not_not]
    exact Binary64.isFinite_ofInt_of_truncate? (hdouble x hx) htruncate

theorem exists_request_iff
    (hline : ∀ n, (field entries "line").integer? = some n → ¬ Draft.IsEndless n) :
    (∃ r, (loose (.fields entries)).request = .ok r) ↔
      AreWellFormed entries ∧ (field entries "suggestion").IsWritten := by
  constructor
  · rintro ⟨r, hr⟩
    exact ⟨Draft.areWellFormed_of_request hr, Draft.isWritten_suggestion_of_request hr⟩
  · rintro ⟨hwell, hwritten⟩
    exact Draft.exists_request_of_areWellFormed hwell hline hwritten

/-- What is written holds no integer that cannot be. -/
theorem not_hasUnwritable_of_isWritten (h : (Datum.fields entries).IsWritten) :
    ¬ (Draft.ofFields entries).HasUnwritable := by
  rintro (⟨-, -, hline⟩ | ⟨-, hsuggestion⟩)
  · exact hline (h.field "line")
  · rw [Draft.ofFields] at hsuggestion
    dsimp only at hsuggestion
    split at hsuggestion
    · exact hsuggestion (isWritten_text _)
    · exact hsuggestion (h.field "suggestion")

theorem exists_refused
    (hline : ∀ n, (field entries "line").integer? = some n → ¬ Draft.IsEndless n)
    (hill : ¬ AreWellFormed entries) (hwritten : ¬ (Draft.ofFields entries).HasUnwritable) :
    ∃ cause, (loose (.fields entries)).request = .error (.refused cause) := by
  cases hrequest : (loose (.fields entries)).request with
  | ok r => exact absurd (Draft.areWellFormed_of_request hrequest) hill
  | error e =>
    cases e with
    | refused cause => exact ⟨cause, rfl⟩
    | lineTooLarge =>
      obtain ⟨-, n, hn, hendless⟩ := Draft.request_eq_lineTooLarge_iff.1 hrequest
      exact absurd hendless (hline n hn)
    | unwritable cause =>
      exact absurd (Draft.request_eq_unwritable_iff.1 hrequest).1 hwritten

end Submission

end Reflow
