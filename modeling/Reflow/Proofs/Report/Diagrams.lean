import Reflow.Proofs.Check.Witnesses
import Reflow.Proofs.Diagram.Heading
import Reflow.Proofs.Position.Bounds
import Reflow.Proofs.Report.Frames

/-!
# Every finding has its diagram

The checks, the requests and the standard painters fit together: whatever an analysis finds is drawn
by the painter of its subject, under its line number. Only the importance flag has no subject.

* `Diagram.Depicts`: a diagram that a painter has drawn, and no message in place of one.
* `Finding.depicted`: the standard painters' answer to the request of a finding.
* `Analysis.depicted_of_mem`: the findings of an analysis.
-/

namespace Reflow

open Text Diagram

/-- The diagram is the one that the painter of the subject draws, neither a notice nor the line for
a subject that nobody draws, and its second line has the line number. -/
structure Diagram.Depicts (d : Diagram) (subject : Subject) (r : Request) : Prop where
  shown : d.shown =
    (compose subject.title (toString r.line) r
      ⟨subject.before r.value, subject.after r.value⟩).shown
  ne_notice (message : String) : d.text ≠ (notice message).text
  ne_unavailable (name : String) : d.text ≠ (unavailable name).text
  line : ∃ row, d.lines[1]? = some row ∧ ("L" ++ toString r.line).toList <:+: row.toList

variable {f : Finding} {r : Request} {s : Settings} {n : Nat}

theorem Diagram.depicts_of_shown {d : Diagram} {subject : Subject}
    (h : d.shown =
      (compose subject.title (toString r.line) r
        ⟨subject.before r.value, subject.after r.value⟩).shown)
    (hline : r.line = n) (hn : n < lineLimit) : d.Depicts subject r := by
  have hnumber : IsLine (toString r.line) := isLine_toString_int r.line
  have hfits : columns (lineText (toString r.line)) ≤ 57 := by
    rw [hline]
    exact columns_lineText_le hn
  refine ⟨h, fun message => ?_, fun name => ?_, headingRow subject.title (toString r.line) r, ?_,
    ?_⟩
  · rw [text_congr h]
    exact text_ne_notice subject.isLine_title hnumber hfits message
  · rw [text_congr h]
    exact text_ne_unavailable name
  · rw [lines_congr h]
    exact second_line_compose subject.isLine_title hnumber
  · exact line_infix_headingRow subject.title r hfits

theorem Roster.supports_standard (subject : Subject) : standard.supports subject.name := by
  rw [supports, lookup_recipes_standard, subject.ofName?_name]
  rfl

/-- The request of a finding is taken as it is, and its subject's painter draws the diagram. -/
theorem Finding.depicted (hr : f.request? = some r) (hline : r.line = n) (hn : n < lineLimit) :
    (Submission.draft r.toDraft).request = .ok r ∧
      ∃ subject, f.kind.subject? = some subject ∧ r.subject = subject.name ∧
        ∃ d, (Studio.standard.illustrate (.draft r.toDraft)).1 = .ok d ∧ d.Depicts subject r := by
  have hsmall : lineLimit ≤ Binary64.twoPow 970 := by decide +kernel
  have hfinite : (Binary64.ofInt r.line).isFinite :=
    Binary64.isFinite_ofInt_of_natAbs_le (by omega)
  have hrequest := Request.request_draft (isComplete_request hr) hfinite
  obtain ⟨subject, hsubject, hname, hdrawn, hshown⟩ := illustrate_standard hr
  obtain ⟨d, hd⟩ := hdrawn.2 hfinite
  exact ⟨hrequest, subject, hsubject, hname, d, hd, depicts_of_shown (hshown d hd) hline hn⟩

/-! ## Findings of an analysis -/

theorem Kind.subject?_ne_none {kind : Kind} (h : kind ∈ all) (hkind : kind ≠ .importantLayout) :
    kind.subject? ≠ none := by
  have hall : ∀ kind ∈ all, kind ≠ .importantLayout → kind.subject? ≠ none := by decide
  exact hall kind h hkind

theorem Rule.Declares.kind_mem_all {r : Rule} (h : r.Declares f) : f.kind ∈ Kind.all := by
  obtain ⟨kind, d, -, hconcerns, -, rfl⟩ := h
  exact Kind.mem_all_of_concerns hconcerns

theorem Check.kind_mem_all_of_mem_run {check : Check} {sheet : Stylesheet} {found : List Finding}
    (hfound : check.run s sheet = .ok found) (h : f ∈ found) : f.kind ∈ Kind.all := by
  rcases cases_of_mem_run hfound h with ⟨r, -, hr⟩ | ⟨-, h⟩ | h | h
  · exact hr.kind_mem_all
  · rw [Stylesheet.kind_of_mem_mixedSizing h]
    decide
  · rw [Stylesheet.kind_of_mem_mediaConflicts h]
    decide
  · rw [h.kind_eq]
    decide

theorem LineScan.kind_mem_all_of_mem_scan {source : String} (h : f ∈ scan s source) :
    f.kind ∈ Kind.all := by
  obtain ⟨_, _, _, _, _, _, _, -, hmeasure, -, -, -, rfl⟩ := exists_of_mem_scan h
  have hkinds : ∀ measure ∈ measures, measure.2.1 ∈ Kind.all := by decide
  exact hkinds _ hmeasure

namespace Analysis

variable {source language : String} {checks : List Check} {result : Result}

/-- An analysis has findings of listed kinds only, each at a line of the source. -/
theorem kind_and_line_of_mem (h : analyze source language s checks = .ok result)
    (hf : f ∈ result.findings) :
    f.kind ∈ Kind.all ∧
      ∃ n : Nat, f.line = some (n : Int) ∧ n ≤ (lines source.toList).length := by
  rcases cases_of_mem_analyze h hf with ⟨check, found, hrun, g, hg, rfl⟩ | hscan
  · have hkind : g.kind ∈ Kind.all := Check.kind_mem_all_of_mem_run hrun hg
    obtain ⟨n, _, _, hline, -, -, hle, -⟩ := g.pointsInto_place source
    exact ⟨hkind, n, hline, hle⟩
  · obtain ⟨n, _, _, hline, -, -, hle, -⟩ := LineScan.pointsInto_of_mem_scan hscan
    exact ⟨LineScan.kind_mem_all_of_mem_scan hscan, n, hline, hle⟩

/-- Whatever an analysis finds in a source of fewer than 10^50 lines has a request that is taken as
it is and a diagram by the painter of its subject, with its line number in the second line. Only the
importance flag has no request. -/
theorem depicted_of_mem (hlines : (lines source.toList).length < Nat.pow 10 50)
    (h : analyze source language s checks = .ok result) (hf : f ∈ result.findings) :
    (f.kind = .importantLayout → f.request? = none) ∧
      (f.kind ≠ .importantLayout → ∃ r subject d, f.request? = some r ∧ f.line = some r.line ∧
        (Submission.draft r.toDraft).request = .ok r ∧ Roster.standard.supports r.subject ∧
        f.kind.subject? = some subject ∧ r.subject = subject.name ∧
        (Studio.standard.illustrate (.draft r.toDraft)).1 = .ok d ∧ d.Depicts subject r) := by
  obtain ⟨hkind, n, hline, hle⟩ := kind_and_line_of_mem h hf
  constructor
  · intro himportant
    rw [Finding.request?, himportant]
    rfl
  · intro himportant
    obtain ⟨r, hr⟩ : ∃ r, f.request? = some r := by
      obtain ⟨subject, hsubject⟩ :=
        Option.ne_none_iff_exists'.1 (Kind.subject?_ne_none hkind himportant)
      rw [Finding.request?, hsubject]
      exact ⟨_, rfl⟩
    have hrline : r.line = n := by
      obtain ⟨subject, -, rfl⟩ := Option.map_eq_some_iff.1 hr
      rw [hline]
      rfl
    have hlimit : Nat.pow 10 50 ≤ lineLimit := by decide
    have hn : n < lineLimit := by omega
    obtain ⟨hrequest, subject, hsubject, hname, d, hd, hdepicts⟩ := Finding.depicted hr hrline hn
    refine ⟨r, subject, d, hr, hline.trans (congrArg some hrline.symm), hrequest, ?_, hsubject,
      hname, hd, hdepicts⟩
    rw [hname]
    exact Roster.supports_standard subject

/-- A width with the importance flag has a diagram as a fixed width and none for the flag. -/
theorem depicted_of_important_width :
    let source := ".a \x7b\n  width: 500px !important\n\x7d"
    ∃ result, analyze source "css" .standard Check.all = .ok result ∧
      (lines source.toList).length < Nat.pow 10 50 ∧
      (∃ f ∈ result.findings, f.kind = .importantLayout ∧ f.request? = none) ∧
      ∃ f ∈ result.findings, f.kind = .fixedWidth ∧ ∃ r d, f.request? = some r ∧
        f.line = some 2 ∧ r.line = 2 ∧
        (Studio.standard.illustrate (.draft r.toDraft)).1 = .ok d ∧
        d.Depicts .fixedDimensions r := by
  intro source
  have hlines : (lines source.toList).length < Nat.pow 10 50 := by decide +kernel
  have hkinds : (analyze source "css" .standard Check.all).toOption.map (fun result =>
      result.findings.any (·.kind = .importantLayout) &&
        result.findings.any fun f => f.kind = .fixedWidth && f.line = some 2) = some true := by
    decide +kernel
  obtain ⟨result, h, hkinds⟩ := exists_of_toOption_map hkinds
  obtain ⟨himportant, hwidth⟩ := Bool.and_eq_true_iff.1 hkinds
  obtain ⟨f, hf, hfkind⟩ := List.any_eq_true.1 himportant
  obtain ⟨g, hg, hgfacts⟩ := List.any_eq_true.1 hwidth
  obtain ⟨hgkind, hgline⟩ := Bool.and_eq_true_iff.1 hgfacts
  have hfkind : f.kind = .importantLayout := of_decide_eq_true hfkind
  have hgkind : g.kind = .fixedWidth := of_decide_eq_true hgkind
  have hgline : g.line = some 2 := of_decide_eq_true hgline
  have hne : g.kind ≠ .importantLayout := by
    rw [hgkind]
    decide
  obtain ⟨r, subject, d, hr, hline, -, -, hsubject, -, hd, hdepicts⟩ :=
    (depicted_of_mem hlines h hg).2 hne
  rw [hgkind] at hsubject
  cases hsubject
  exact ⟨result, h, hlines, ⟨f, hf, hfkind, (depicted_of_mem hlines h hf).1 hfkind⟩, g, hg,
    hgkind, r, d, hr, hgline, (Option.some.inj (hgline.symm.trans hline)).symm, hd, hdepicts⟩

end Analysis

end Reflow
