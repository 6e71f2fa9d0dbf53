import Reflow.Proofs.Stylesheet.Reading

/-!
# Flat rules part a text

What is read as flat rules, said of any text, with braces that match or not. The rules stand in the
text one behind the other as they were written. Between them are opening braces and nothing else,
and what is left behind the last one has no rule in it.

* `FlatRule`: a rule as it stands in a text, with the stray braces in front of it.
* `HoldsNoRule`: no block is opened behind the leading braces of a text, or none is closed.
* `CutsIntoRules`: what rules and which tail a text is cut into. Every text is cut
  (`exists_cutsIntoRules`), and the rules of a cut are the rules that are read
  (`CutsIntoRules.flatRules_eq`).
* `rulesOf_exact`: the rules of a text are those of its cuts.
-/

namespace Reflow.Stylesheet

open Text

/-- A rule as it stands in a text, and the opening braces in front of it. -/
structure FlatRule where
  gap : List Char
  selector : List Char
  body : List Char
deriving DecidableEq, Repr

namespace FlatRule

/-- The rule as written, with the braces in front of it. -/
def text (r : FlatRule) : List Char := r.gap ++ (r.selector ++ '{' :: (r.body ++ ['}']))

/-- The rule as it is read. -/
def rule (atRule : Option AtRule) (r : FlatRule) : Rule :=
  ⟨String.ofList (trim r.selector), declarations r.body, atRule⟩

/-- A selector that is not empty goes up to the first opening brace, a body up to the first closing
one. -/
structure IsCutOut (r : FlatRule) : Prop where
  gap : ∀ c ∈ r.gap, c = '{'
  selector_ne : r.selector ≠ []
  selector : '{' ∉ r.selector
  body : '}' ∉ r.body

end FlatRule

/-- Behind the leading braces of the text no block is opened, or none is closed. -/
def HoldsNoRule (s : List Char) : Prop :=
  ∃ braces rest, s = braces ++ rest ∧ (∀ c ∈ braces, c = '{') ∧ (∀ c ∈ rest.head?, c ≠ '{') ∧
    ('{' ∉ rest ∨
      ∃ selector inside, rest = selector ++ '{' :: inside ∧ '{' ∉ selector ∧ '}' ∉ inside)

/-- The text is cut into rules, one behind the other, and a tail without a rule. -/
structure CutsIntoRules (s : List Char) (rules : List FlatRule) (tail : List Char) : Prop where
  whole : rules.flatMap FlatRule.text ++ tail = s
  isCutOut : ∀ r ∈ rules, r.IsCutOut
  tail : HoldsNoRule tail

variable {s tail : List Char} {r : FlatRule} {rules : List FlatRule}

/-! ## Tails -/

/-- No rule stands anywhere in such a tail: its first character that is no brace would be behind the
leading braces, and so would be its two braces. -/
theorem HoldsNoRule.not_infix (h : HoldsNoRule s) (hr : r.IsCutOut) : ¬ r.text <:+: s := by
  rintro ⟨front, back, hs⟩
  obtain ⟨braces, rest, rfl, hbraces, -, hrest⟩ := h
  obtain ⟨c, selector, hselector⟩ := List.exists_cons_of_ne_nil hr.selector_ne
  have hc : c ≠ '{' := fun h => hr.selector (by rw [hselector, h]; exact List.mem_cons_self)
  have hsplit : (front ++ r.gap) ++ c :: (selector ++ '{' :: (r.body ++ '}' :: back)) =
      braces ++ rest := by
    rw [← hs, FlatRule.text, hselector]
    simp
  obtain ⟨lead, hlead⟩ := suffix_of_not_mem hsplit fun h => hc (hbraces c h)
  rcases hrest with hopen | ⟨selector', inside, hinside, hopen, hclose⟩
  · exact hopen (by rw [← hlead]; simp)
  · have hfirst : (lead ++ c :: selector) ++ '{' :: (r.body ++ '}' :: back) =
        selector' ++ '{' :: inside := by
      rw [← hinside, ← hlead]
      simp
    rcases List.suffix_cons_iff.1 (suffix_of_not_mem hfirst hopen) with h | h
    · exact hclose (by rw [← (List.cons.inj h).2]; simp)
    · exact hclose (h.subset (by simp))

/-- Nothing is read from such a tail. -/
theorem HoldsNoRule.flatRules_eq (h : HoldsNoRule s) : flatRules s = [] := by
  obtain ⟨braces, rest, rfl, hbraces, hhead, hrest⟩ := h
  have hd : (braces ++ rest).dropWhile (· == '{') = rest :=
    dropWhile_run (fun c hc => beq_iff_eq.2 (hbraces c hc)) fun c hc => by simpa using hhead c hc
  rw [flatRules]
  split
  · rfl
  · next hopen =>
    rw [hd] at hopen
    split
    · rfl
    · next hclose =>
      obtain ⟨hs, -⟩ := breakAt?_singleton_eq_some_iff.1 hopen
      obtain ⟨hinside, -⟩ := breakAt?_singleton_eq_some_iff.1 hclose
      rcases hrest with hnone | ⟨selector', inside', hs', hnone, hnoclose⟩
      · exact absurd (by rw [hs]; simp) hnone
      · rw [hs', breakAt?_singleton hnone] at hopen
        cases hopen
        exact absurd (by rw [hinside]; simp) hnoclose

/-! ## Cuts -/

/-- The rules of a cut are the rules that are read. -/
theorem CutsIntoRules.flatRules_eq (h : CutsIntoRules s rules tail) :
    flatRules s = rules.map fun r => (r.selector, r.body) := by
  obtain ⟨rfl, hrules, htail⟩ := h
  induction rules with
  | nil => exact htail.flatRules_eq
  | cons r rules ih =>
    obtain ⟨hr, hrules⟩ := List.forall_mem_cons.1 hrules
    have htext : (r :: rules).flatMap FlatRule.text ++ tail =
        r.gap ++ (r.selector ++ '{' :: (r.body ++ '}' :: (rules.flatMap FlatRule.text ++ tail))) := by
      simp [FlatRule.text]
    rw [htext, flatRules_gap_append hr.gap hr.selector_ne hr.selector hr.body, ih hrules,
      List.map_cons]

/-- Every text is cut: reading goes on behind a rule as in front of it. -/
theorem exists_cutsIntoRules (s : List Char) : ∃ rules tail, CutsIntoRules s rules tail := by
  have hbraces (s : List Char) : ∀ c ∈ s.takeWhile (· == '{'), c = '{' :=
    fun c hc => by simpa using List.mem_takeWhile_imp hc
  have hhead (s : List Char) : ∀ c ∈ (s.dropWhile (· == '{')).head?, c ≠ '{' := by
    intro c hc
    have hnot := List.head?_dropWhile_not (· == '{') s
    rw [Option.mem_def.1 hc] at hnot
    simpa using hnot
  have hsplit (s : List Char) : s = s.takeWhile (· == '{') ++ s.dropWhile (· == '{') :=
    List.takeWhile_append_dropWhile.symm
  fun_induction flatRules s with
  | case1 s start hopen =>
    exact ⟨[], s, rfl, List.forall_mem_nil _, _, start, hsplit s, hbraces s, hhead s,
      .inl (breakAt?_singleton_eq_none_iff.1 hopen)⟩
  | case2 s start selector inside hopen hclose =>
    obtain ⟨hstart, hselector⟩ := breakAt?_singleton_eq_some_iff.1 hopen
    exact ⟨[], s, rfl, List.forall_mem_nil _, _, start, hsplit s, hbraces s, hhead s,
      .inr ⟨selector, inside, hstart, hselector, breakAt?_singleton_eq_none_iff.1 hclose⟩⟩
  | case3 s start selector inside hopen body rest hclose hlt ih =>
    obtain ⟨rules, tail, hwhole, hrules, htail⟩ := ih
    obtain ⟨hstart, hselector⟩ := breakAt?_singleton_eq_some_iff.1 hopen
    obtain ⟨hinside, hbody⟩ := breakAt?_singleton_eq_some_iff.1 hclose
    have hs : s = s.takeWhile (· == '{') ++ (selector ++ '{' :: (body ++ '}' :: rest)) := by
      rw [← hinside, ← hstart]
      exact hsplit s
    have hne : selector ≠ [] := by
      rintro rfl
      refine hhead s '{' ?_ rfl
      rw [show s.dropWhile (· == '{') = start from rfl, hstart]
      rfl
    refine ⟨⟨s.takeWhile (· == '{'), selector, body⟩ :: rules, tail, ?_,
      List.forall_mem_cons.2 ⟨⟨hbraces s, hne, hselector, hbody⟩, hrules⟩, htail⟩
    rw [List.flatMap_cons, List.append_assoc, hwhole, FlatRule.text]
    simpa using hs.symm

/-- Every text is cut into flat rules and a tail without a rule, and however it is cut, its rules
are read off the cut, each from its selector and its body. -/
theorem rulesOf_exact (atRule : Option AtRule) (s : List Char) :
    (∃ rules tail, CutsIntoRules s rules tail) ∧
      ∀ rules tail, CutsIntoRules s rules tail →
        rulesOf atRule s = rules.map (FlatRule.rule atRule) ∧
          ∀ r : FlatRule, r.IsCutOut → ¬ r.text <:+: tail := by
  refine ⟨exists_cutsIntoRules s, fun rules tail h => ⟨?_, fun r => h.tail.not_infix⟩⟩
  rw [rulesOf, h.flatRules_eq, List.map_map]
  rfl

/-- Stray braces in front of a rule, a closing brace in a selector, an opening one in a body, and a
rule that is not closed. -/
theorem rulesOf_exact_unbalanced :
    let s := "\x7b\x7ba\x7bx:1\x7by:2\x7d\x7d b\x7b\x7d\x7bc\x7bz:3;".toList
    let first : FlatRule := ⟨"\x7b\x7b".toList, "a".toList, "x:1\x7by:2".toList⟩
    let second : FlatRule := ⟨[], "\x7d b".toList, []⟩
    CutsIntoRules s [first, second] "\x7bc\x7bz:3;".toList ∧
      rulesOf none s = [first.rule none, second.rule none] ∧
      rulesOf none s = [⟨"a", [("x", "1\x7by:2")], none⟩, ⟨"\x7d b", [], none⟩] := by
  intro s first second
  have hbraces : first.gap = ['{', '{'] := by decide
  have hfirst : first.IsCutOut := ⟨by simp [hbraces], by decide, by decide, by decide⟩
  have hsecond : second.IsCutOut := ⟨List.forall_mem_nil _, by decide, by decide, by decide⟩
  have htail : HoldsNoRule "\x7bc\x7bz:3;".toList :=
    ⟨['{'], "c\x7bz:3;".toList, by decide, by simp, by simp,
      .inr ⟨['c'], "z:3;".toList, by decide, by decide, by decide⟩⟩
  have hcut : CutsIntoRules s [first, second] "\x7bc\x7bz:3;".toList :=
    ⟨by decide, List.forall_mem_cons.2 ⟨hfirst, List.forall_mem_singleton.2 hsecond⟩, htail⟩
  exact ⟨hcut, ((rulesOf_exact none s).2 _ _ hcut).1, by decide +kernel⟩

end Reflow.Stylesheet
