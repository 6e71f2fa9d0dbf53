import Reflow.Painter
import Reflow.Proofs.Text.Occurrence

/-!
# The keys of drawings

A key is a subject, a severity and a value with colons between them. Values may hold colons too, so
a key tells its parts apart only because the others hold none.

* `Request.cacheKey_inj`: requests with the same key have the same subject, severity and value.
-/

namespace Reflow

theorem Severity.name_injective {s t : Severity} (h : s.name = t.name) : s = t := by
  revert h
  cases s <;> cases t <;> decide

theorem Severity.colon_notMem_name (s : Severity) : ':' ∉ s.name.toList := by
  cases s <;> decide

theorem Subject.colon_notMem_name (s : Subject) : ':' ∉ s.name.toList := by
  cases s <;> decide

theorem Subject.ofName?_name (s : Subject) : ofName? s.name = some s := by
  cases s <;> decide

theorem Subject.name_injective {s t : Subject} (h : s.name = t.name) : s = t := by
  have hs := s.ofName?_name
  rw [h, t.ofName?_name] at hs
  exact (Option.some.inj hs).symm

/-- The first colon parts a text whose front has none. -/
private theorem append_colon_inj {a b s t : String} (ha : ':' ∉ a.toList) (hb : ':' ∉ b.toList)
    (h : a ++ (":" ++ s) = b ++ (":" ++ t)) : a = b ∧ s = t := by
  have h : a.toList ++ ':' :: s.toList = b.toList ++ ':' :: t.toList := by
    simpa using congrArg String.toList h
  have hs := Text.breakAt?_singleton ha s.toList
  rw [h, Text.breakAt?_singleton hb] at hs
  obtain ⟨hab, hst⟩ := Prod.mk.inj (Option.some.inj hs)
  exact ⟨String.toList_inj.1 hab.symm, String.toList_inj.1 hst.symm⟩

theorem Request.cacheKey_inj {r₁ r₂ : Request} (h₁ : ':' ∉ r₁.subject.toList)
    (h₂ : ':' ∉ r₂.subject.toList) (h : r₁.cacheKey = r₂.cacheKey) :
    r₁.subject = r₂.subject ∧ r₁.severity = r₂.severity ∧ r₁.value = r₂.value := by
  simp only [cacheKey, String.append_assoc] at h
  obtain ⟨hsubject, h⟩ := append_colon_inj h₁ h₂ h
  obtain ⟨hname, hvalue⟩ :=
    append_colon_inj r₁.severity.colon_notMem_name r₂.severity.colon_notMem_name h
  exact ⟨hsubject, Severity.name_injective hname, hvalue⟩

end Reflow
