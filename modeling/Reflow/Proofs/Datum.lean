import Reflow.Datum
import Reflow.Proofs.Outcomes

/-!
# Values that can be shown

A message shows a value with all that is in it. It cannot if one of the integers in it has too many
digits to be written, and that is the only way to fail.

* `Datum.Holds`, `Datum.IsWritten`: the integers in a value, and the values that can be shown.
* `Datum.shown_eq_error_iff`, `Datum.plainText_eq_error_iff`: the values that are not.
* `Datum.integer?_eq_some_iff`: the integer in a number.
-/

namespace Reflow

namespace Datum

/-- The integer is in the value, or in one of its items or fields. -/
inductive Holds (n : Int) : Datum → Prop
  | int : Holds n (.int n)
  | item {items : List Datum} {item : Datum} (hmem : item ∈ items) (h : Holds n item) :
      Holds n (.list items)
  | field {entries : List (String × Datum)} {entry : String × Datum} (hmem : entry ∈ entries)
      (h : Holds n entry.2) : Holds n (.fields entries)

/-- Every integer in the value has few enough digits to be written. -/
def IsWritten (d : Datum) : Prop := ∀ n, d.Holds n → Text.IsWritable n

variable {d : Datum} {items : List Datum} {entries : List (String × Datum)} {n : Int}
  {cause : Text.DigitError}

theorem isWritten_int_iff : (int n).IsWritten ↔ Text.IsWritable n := by
  refine ⟨fun h => h n .int, ?_⟩
  rintro h m ⟨⟩
  exact h

theorem isWritten_list_iff : (list items).IsWritten ↔ ∀ item ∈ items, item.IsWritten := by
  refine ⟨fun h item hmem n hn => h n (.item hmem hn), ?_⟩
  rintro h n ⟨⟩
  next hn hmem => exact h _ hmem n hn

theorem isWritten_fields_iff :
    (fields entries).IsWritten ↔ ∀ entry ∈ entries, entry.2.IsWritten := by
  refine ⟨fun h entry hmem n hn => h n (.field hmem hn), ?_⟩
  rintro h n ⟨⟩
  next hn hmem => exact h _ hmem n hn

theorem isWritten_text (text : String) : (Datum.text text).IsWritten := by
  rintro n ⟨⟩

/-- Two texts are put together unless one of them is missing. -/
theorem both_eq_error_iff {α β γ : Type} {x : Except Text.DigitError α}
    {y : Except Text.DigitError β} {both : α → β → γ} {P Q : Prop}
    (hx : ∀ e, x = .error e ↔ ¬ P ∧ e = .unwritable)
    (hy : ∀ e, y = .error e ↔ ¬ Q ∧ e = .unwritable) :
    (do return both (← x) (← y)) = .error cause ↔ ¬ (P ∧ Q) ∧ cause = .unwritable := by
  rw [bind_eq_error_iff, hx]
  constructor
  · rintro (⟨hp, rfl⟩ | ⟨a, -, h⟩)
    · exact ⟨fun h => hp h.1, rfl⟩
    · obtain ⟨hq, rfl⟩ := (hy cause).1 (bind_pure_eq_error_iff.1 h)
      exact ⟨fun h => hq h.2, rfl⟩
  · rintro ⟨hpq, rfl⟩
    by_cases hp : P
    · obtain ⟨a, ha⟩ := (exists_eq_ok_iff hx).2 fun _ h => h.1 hp
      have hq : ¬ Q := fun hq => hpq ⟨hp, hq⟩
      exact .inr ⟨a, ha, bind_pure_eq_error_iff.2 ((hy _).2 ⟨hq, rfl⟩)⟩
    · exact .inl ⟨hp, rfl⟩

mutual

/-- A value is shown unless it has an integer in it that cannot be written. -/
theorem shown_eq_error_iff (d : Datum) {cause : Text.DigitError} :
    d.shown = .error cause ↔ ¬ d.IsWritten ∧ cause = .unwritable := by
  cases d with
  | int n => rw [shown, Text.writeInteger_eq_error_iff, isWritten_int_iff]
  | list items =>
    rw [shown, bind_pure_eq_error_iff, shownItems_eq_error_iff items, isWritten_list_iff]
  | fields entries =>
    rw [shown, bind_pure_eq_error_iff, shownFields_eq_error_iff entries, isWritten_fields_iff]
  | bool b =>
    refine iff_of_false ?_ fun h => h.1 nofun
    cases b <;> exact nofun
  | null => exact iff_of_false nofun fun h => h.1 nofun
  | number x => exact iff_of_false nofun fun h => h.1 nofun
  | text s => exact iff_of_false nofun fun h => h.1 nofun

theorem shownItems_eq_error_iff (items : List Datum) {cause : Text.DigitError} :
    shownItems items = .error cause ↔ ¬ (∀ item ∈ items, item.IsWritten) ∧ cause = .unwritable := by
  cases items with
  | nil => exact iff_of_false nofun fun h => h.1 (List.forall_mem_nil _)
  | cons item items =>
    rw [shownItems, List.forall_mem_cons]
    exact both_eq_error_iff (fun _ => shown_eq_error_iff item)
      fun _ => shownItems_eq_error_iff items

theorem shownFields_eq_error_iff (entries : List (String × Datum)) {cause : Text.DigitError} :
    shownFields entries = .error cause ↔
      ¬ (∀ entry ∈ entries, entry.2.IsWritten) ∧ cause = .unwritable := by
  cases entries with
  | nil => exact iff_of_false nofun fun h => h.1 (List.forall_mem_nil _)
  | cons entry entries =>
    rw [shownFields, List.forall_mem_cons]
    exact both_eq_error_iff (fun _ => shown_eq_error_iff entry.2)
      fun _ => shownFields_eq_error_iff entries

end

theorem plainText_eq_error_iff :
    d.plainText = .error cause ↔ ¬ d.IsWritten ∧ cause = .unwritable := by
  cases d with
  | text s => exact iff_of_false nofun fun h => h.1 (isWritten_text s)
  | _ => exact shown_eq_error_iff _

theorem exists_plainText_iff : (∃ text, d.plainText = .ok text) ↔ d.IsWritten := by
  rw [exists_eq_ok_iff fun _ => plainText_eq_error_iff]
  simp

/-- What counts as not given has no integer in it but zero. -/
theorem isWritten_of_isVoid (h : d.isVoid) : d.IsWritten := by
  cases d with
  | int n =>
    obtain rfl : n = 0 := by simpa [isVoid] using h
    exact isWritten_int_iff.2 (by decide)
  | list items =>
    obtain rfl : items = [] := by simpa [isVoid] using h
    exact isWritten_list_iff.2 (List.forall_mem_nil _)
  | fields entries =>
    obtain rfl : entries = [] := by simpa [isVoid] using h
    exact isWritten_fields_iff.2 (List.forall_mem_nil _)
  | _ => exact nofun

/-- A field is written where all of them are. -/
theorem IsWritten.field (h : (fields entries).IsWritten) (name : String) :
    (Datum.field entries name).IsWritten := by
  unfold Datum.field
  cases hlookup : entries.lookup name with
  | none => exact nofun
  | some value => exact isWritten_fields_iff.1 h _ (mem_of_lookup hlookup)

/-! ## Integers in numbers -/

theorem integer?_eq_some_iff :
    d.integer? = some n ↔ d = .int n ∨ ∃ x, d = .number x ∧ x.truncate? = some n := by
  cases d <;> simp [integer?]

end Datum

end Reflow
