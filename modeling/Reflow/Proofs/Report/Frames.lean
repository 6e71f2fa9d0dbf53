import Reflow.Proofs.Check.Findings
import Reflow.Proofs.Diagram.Drawing
import Reflow.Proofs.Diagram.Request
import Reflow.Proofs.Studio.SharedCache

/-!
# The frames of diagrams of findings

A stylesheet may spread a value over several lines, and the diagram of a finding shows it as it is.
So the diagram keeps its frame only if what is shown of the declaration has no line feed.

* `Finding.illustrate_standard`: what the standard painters draw for a finding.
* `Analysis.inFrame_iff_of_mem`: when the diagrams of an analysis keep their frames.
-/

namespace Reflow

open Text Diagram

/-! ## What can be seen of a frame -/

theorem Diagram.lines_congr {d e : Diagram} (h : d.shown = e.shown) : d.lines = e.lines := by
  rw [lines, text_congr h, lines]

theorem Diagram.inFrame_congr {d e : Diagram} (h : d.shown = e.shown) : d.InFrame ↔ e.InFrame := by
  obtain ⟨-, -, hheight⟩ := Shown.mk.inj h
  have hlines := lines_congr h
  constructor
  · rintro ⟨h₁, h₂, h₃⟩
    exact ⟨by rw [← hlines, ← hheight, h₁], hheight ▸ h₂, hlines ▸ h₃⟩
  · rintro ⟨h₁, h₂, h₃⟩
    exact ⟨by rw [hlines, hheight, h₁], hheight ▸ h₂, hlines ▸ h₃⟩

/-! ## Requests of findings -/

theorem Kind.isLine_suggestion (kind : Kind) : IsLine kind.wording.suggestion := by
  cases kind <;> exact isLine_ofList.2 (by decide)

theorem Finding.IsWorded.isLine_suggestion {f : Finding} (h : f.IsWorded) :
    IsLine f.wording.suggestion := by
  rcases h with h | h
  · rw [h]
    exact f.kind.isLine_suggestion
  · rw [h]
    exact isLine_ofList.2 (by decide)

theorem Finding.IsWorded.isLine_request {f : Finding} (h : f.IsWorded) {r : Request}
    (hr : f.request? = some r) : IsLine r.suggestion := by
  obtain ⟨subject, -, rfl⟩ := Option.map_eq_some_iff.1 hr
  show IsLine (givenOr "Use responsive units" f.wording.suggestion)
  unfold givenOr
  split
  · exact isLine_ofList.2 (by decide)
  · exact h.isLine_suggestion

theorem Finding.exists_subject {f : Finding} {r : Request} (h : f.request? = some r) :
    ∃ s, f.kind.subject? = some s ∧ r.subject = s.name := by
  obtain ⟨s, hs, rfl⟩ := Option.map_eq_some_iff.1 h
  exact ⟨s, hs, rfl⟩

/-- The standard painters' answer to the request of a finding. -/
theorem Finding.answer_standard {f : Finding} {r : Request} (h : f.request? = some r) :
    ∃ s, f.kind.subject? = some s ∧ r.subject = s.name ∧
      Roster.standard.answer (.draft r.toDraft) =
        if (Binary64.ofInt r.line).isFinite then
          .ok (.compose s.title (toString r.line) r ⟨s.before r.value, s.after r.value⟩)
        else .error .lineTooLarge := by
  obtain ⟨s, hkind, hs⟩ := exists_subject h
  refine ⟨s, hkind, hs, ?_⟩
  have hrequest : (Submission.draft r.toDraft).request = _ :=
    Request.request_toDraft (isComplete_request h)
  unfold Roster.answer
  by_cases hl : (Binary64.ofInt r.line).isFinite
  · rw [if_pos hl] at hrequest
    rw [hrequest, if_pos hl]
    dsimp only
    rw [hs, Roster.painter?_standard]
    have hwritable : IsWritable r.line := Submission.isWritable_line_of_request hrequest
    dsimp only
    rw [Painter.alone, Painter.draw_eq_ok rfl rfl]
    dsimp only [Except.bind]
    rw [Painter.present_of_isWritable hwritable]
    rfl
  · rw [if_neg hl] at hrequest
    rw [hrequest, if_neg hl]

/-- The standard painters draw a finding exactly if its line number is a double, and what is shown
of the diagram is composed from what the painter of its subject draws. -/
theorem Finding.illustrate_standard {f : Finding} {r : Request} (h : f.request? = some r) :
    ∃ s, f.kind.subject? = some s ∧ r.subject = s.name ∧
      ((∃ d, (Studio.standard.illustrate (.draft r.toDraft)).1 = .ok d) ↔
        (Binary64.ofInt r.line).isFinite) ∧
      ∀ d, (Studio.standard.illustrate (.draft r.toDraft)).1 = .ok d →
        d.shown =
          (compose s.title (toString r.line) r ⟨s.before r.value, s.after r.value⟩).shown := by
  obtain ⟨s, hkind, hs, hanswer⟩ := answer_standard h
  have hshown := (Studio.isFaithful_standard.illustrate (.draft r.toDraft)).1
  rw [show Studio.standard.roster = Roster.standard from rfl, hanswer] at hshown
  refine ⟨s, hkind, hs, ?_⟩
  cases hd : (Studio.standard.illustrate (.draft r.toDraft)).1 with
  | error e =>
    have hl : ¬ (Binary64.ofInt r.line).isFinite := by
      intro hl
      rw [hd, if_pos hl] at hshown
      cases hshown
    exact ⟨iff_of_false nofun hl, nofun⟩
  | ok d =>
    have hl : (Binary64.ofInt r.line).isFinite := by
      by_contra hl
      rw [hd, if_neg hl] at hshown
      cases hshown
    rw [hd, if_pos hl] at hshown
    refine ⟨iff_of_true ⟨d, rfl⟩ hl, ?_⟩
    rintro _ ⟨⟩
    exact Except.ok.inj hshown

/-- A finding's diagram keeps its frame exactly if its line number is a double and what is shown of
its declaration, a mark and `property: value` in fifty-eight columns, has no line feed. -/
theorem Finding.IsWorded.inFrame_iff {f : Finding} (hf : f.IsWorded) {r : Request}
    (hr : f.request? = some r) :
    (∃ d, (Studio.standard.illustrate (.draft r.toDraft)).1 = .ok d ∧ d.InFrame) ↔
      (Binary64.ofInt r.line).isFinite ∧
        IsLine (truncate (" " ++ problemText r) innerWidth) := by
  obtain ⟨s, -, -, hdrawn, hshown⟩ := Finding.illustrate_standard hr
  have hsolution : IsLine (truncate (" " ++ solutionText r) innerWidth) :=
    ((by decide : IsLine " ").append (isLine_solutionText (hf.isLine_request hr))).truncate
  have hcompose :
      (compose s.title (toString r.line) r ⟨s.before r.value, s.after r.value⟩).InFrame ↔
        IsLine (truncate (" " ++ problemText r) innerWidth) := by
    rw [inFrame_compose_iff, isLine_allRows_iff s.isLine_title (isLine_toString_int r.line)
      (s.isLines_drawing r.value), isLine_measurements_iff, and_iff_left hsolution]
  rw [← hcompose, ← hdrawn]
  constructor
  · rintro ⟨d, hd, hframe⟩
    exact ⟨⟨d, hd⟩, (inFrame_congr (hshown d hd)).1 hframe⟩
  · rintro ⟨⟨d, hd⟩, hframe⟩
    exact ⟨d, hd, (inFrame_congr (hshown d hd)).2 hframe⟩

namespace Analysis

/-- The diagrams of an analysis keep their frames exactly if no line feed of a declaration is shown.
Nothing in the way from the source to the diagram takes them out. -/
theorem inFrame_iff_of_mem {source language : String} {s : Settings} {checks : List Check}
    {result : Result} (hresult : analyze source language s checks = .ok result) {f : Finding}
    (hf : f ∈ result.findings) {r : Request} (hr : f.request? = some r) :
    (∃ d, (Studio.standard.illustrate (.draft r.toDraft)).1 = .ok d ∧ d.InFrame) ↔
      (Binary64.ofInt r.line).isFinite ∧
        IsLine (truncate (" " ++ problemText r) innerWidth) :=
  (isWorded_of_mem_analyze hresult hf).inFrame_iff hr

private theorem exists_of_requests {s : String} {r : Request}
    (h : (analyze s "css" .standard Check.all).toOption.map
      (·.findings.map Finding.request?) = some [some r]) :
    ∃ result, analyze s "css" .standard Check.all = .ok result ∧
      ∃ f ∈ result.findings, f.request? = some r := by
  obtain ⟨result, hresult, hrequests⟩ := exists_of_toOption_map h
  have hr : some r ∈ result.findings.map Finding.request? := by
    rw [hrequests]
    exact List.mem_singleton_self _
  exact ⟨result, hresult, List.mem_map.1 hr⟩

theorem inFrame_of_one_line :
    ∃ result, analyze ".a \x7b width: 500px \x7d" "css" .standard Check.all = .ok result ∧
      ∃ f ∈ result.findings, ∃ r, f.request? = some r ∧
        ∃ d, (Studio.standard.illustrate (.draft r.toDraft)).1 = .ok d ∧ d.InFrame := by
  let r : Request := ⟨"fixed-dimensions", .medium, 1, ".a", "width", "500px",
    "Use relative units or max-width", .other⟩
  obtain ⟨result, hresult, f, hf, hr⟩ :=
    exists_of_requests (s := ".a \x7b width: 500px \x7d") (r := r) (by decide +kernel)
  exact ⟨result, hresult, f, hf, r, hr,
    (inFrame_iff_of_mem hresult hf hr).2 (by decide +kernel)⟩

/-- A value in two lines breaks the frame of its diagram. -/
theorem not_inFrame_of_two_lines :
    ∃ result, analyze ".a \x7b width: 500px\n!x \x7d" "css" .standard Check.all = .ok result ∧
      ∃ f ∈ result.findings, ∃ r, f.request? = some r ∧
        ¬ ∃ d, (Studio.standard.illustrate (.draft r.toDraft)).1 = .ok d ∧ d.InFrame := by
  let r : Request := ⟨"fixed-dimensions", .medium, 1, ".a", "width", "500px\n!x",
    "Use relative units or max-width", .other⟩
  obtain ⟨result, hresult, f, hf, hr⟩ :=
    exists_of_requests (s := ".a \x7b width: 500px\n!x \x7d") (r := r) (by decide +kernel)
  exact ⟨result, hresult, f, hf, r, hr,
    mt ((isWorded_of_mem_analyze hresult hf).inFrame_iff hr).1 (by decide +kernel)⟩

end Analysis

end Reflow
