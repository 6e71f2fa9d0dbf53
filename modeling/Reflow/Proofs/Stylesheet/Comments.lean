import Reflow.Proofs.Stylesheet.Reading

/-!
# Comments are passed over

A text with comments put in reads like the text without them, whatever the comments say: a comment
ends at the first end mark behind its start, and what was read in front of it does not matter.

* `afterComment?_eq`: the end of a comment is looked for like any other text.
* `stripComments_comment`, `stripComments_append`: what happens at a comment, and up to the next.
* `Commented`: texts with comments between them, as written and without the comments.
* `Commented.reads_as_plain`: stripping the comments leaves the texts, and reading is the
  same with and without the comments.
-/

namespace Reflow.Stylesheet

open Text

variable {s a comment : List Char}

/-! ## One comment -/

/-- The end of a comment is the first occurrence of its end mark. -/
theorem afterComment?_eq (s : List Char) :
    afterComment? s = (breakAt? ['*', '/'] s).map (·.2) := by
  fun_induction afterComment? s with
  | case1 => rfl
  | case2 rest =>
    have hlead : afterLead? ['*', '/'] ('*' :: '/' :: rest) = some rest :=
      afterLead?_append ['*', '/'] rest
    rw [breakAt?, hlead]
    rfl
  | case3 c tail hend ih =>
    have hlead : afterLead? ['*', '/'] (c :: tail) = none := by
      rw [afterLead?_eq_none_iff]
      rintro ⟨rest, hrest⟩
      obtain ⟨hc, htail⟩ := List.cons.inj hrest
      exact hend rest hc.symm htail.symm
    rw [ih, breakAt?, hlead, Option.map_map]
    rfl

/-- A comment goes, up to its end mark. -/
theorem stripComments_comment (h : ¬ ['*', '/'] <:+: comment) (s : List Char) :
    stripComments ('/' :: '*' :: (comment ++ '*' :: '/' :: s)) = stripComments s := by
  have hend : breakAt? ['*', '/'] (comment ++ '*' :: '/' :: s) = some (comment, s) :=
    breakAt?_append (by decide) h
  have hafter : afterComment? (comment ++ '*' :: '/' :: s) = some s := by
    rw [afterComment?_eq, hend]
    rfl
  rw [stripComments]
  split
  · next h => rw [hafter] at h; cases h; rfl
  · next h => rw [hafter] at h; cases h

/-- Text that starts no comment stays, also where it meets what comes behind it. -/
theorem stripComments_append (ha : ¬ ['/', '*'] <:+: a) (hs : s.head? ≠ some '*') :
    stripComments (a ++ s) = a ++ stripComments s := by
  induction a with
  | nil => rfl
  | cons c a ih =>
    have hstart : ∀ tail, c = '/' → a ++ s = '*' :: tail → False := by
      rintro tail rfl htail
      cases a with
      | nil =>
        rw [List.nil_append] at htail
        exact hs (by rw [htail]; rfl)
      | cons d a =>
        obtain ⟨rfl, -⟩ := List.cons.inj htail
        exact ha (List.prefix_append ['/', '*'] a).isInfix
    rw [List.cons_append, stripComments.eq_3 _ _ hstart, ih fun hi => ha (List.infix_cons hi),
      List.cons_append]

/-! ## Any number of comments -/

/-- A text, and comments with the texts behind them. -/
structure Commented where
  first : List Char
  parts : List (List Char × List Char)

namespace Commented

/-- The text with the comments. -/
def text (t : Commented) : List Char :=
  t.first ++ t.parts.flatMap fun p => '/' :: '*' :: (p.1 ++ '*' :: '/' :: p.2)

/-- The text without the comments. -/
def plain (t : Commented) : List Char := t.first ++ t.parts.flatMap (·.2)

/-- No comment ends early, and none starts in a text between comments. -/
structure IsMarked (t : Commented) : Prop where
  comments : ∀ p ∈ t.parts, ¬ ['*', '/'] <:+: p.1
  first : ¬ ['/', '*'] <:+: t.first
  parts : ∀ p ∈ t.parts, ¬ ['/', '*'] <:+: p.2

variable {t : Commented}

/-- Stripping goes from comment to comment: the induction is on the comments, with any text in
front of them. -/
theorem IsMarked.stripComments_text (h : t.IsMarked) : stripComments t.text = t.plain := by
  obtain ⟨first, parts⟩ := t
  induction parts generalizing first with
  | nil =>
    rw [text, plain, List.flatMap_nil, List.flatMap_nil, List.append_nil]
    exact stripComments_of_not_infix h.first
  | cons p parts ih =>
    obtain ⟨hcomment, hcomments⟩ := List.forall_mem_cons.1 h.comments
    obtain ⟨hp, hparts⟩ := List.forall_mem_cons.1 h.parts
    have hrest : stripComments (text ⟨p.2, parts⟩) = plain ⟨p.2, parts⟩ :=
      ih p.2 ⟨hcomments, hp, hparts⟩
    have htext : text ⟨first, p :: parts⟩ =
        first ++ '/' :: '*' :: (p.1 ++ '*' :: '/' :: text ⟨p.2, parts⟩) := by
      simp [text]
    rw [htext, stripComments_append h.first (by simp), stripComments_comment hcomment, hrest]
    rfl

/-- Stripping leaves the texts between the comments. If no comment starts where they meet, then
reading is the same with and without the comments. -/
theorem reads_as_plain (h : t.IsMarked) :
    stripComments t.text = t.plain ∧
      (¬ ['/', '*'] <:+: t.plain →
        parse (String.ofList t.text) = parse (String.ofList t.plain)) := by
  refine ⟨h.stripComments_text, fun hplain => ?_⟩
  rw [parse, parse, String.toList_ofList, String.toList_ofList, h.stripComments_text,
    stripComments_of_not_infix hplain]

/-- Comments of a slash and of a star, one behind the other, behind a slash, in a selector, and with
braces and the start of a comment in them. -/
theorem reads_as_plain_overlapping :
    let t : Commented := ⟨"a/".toList, [(['/'], "\x7bb:".toList), (['*'], []),
      ("\x7d@media\x7b\"/*;".toList, "1\x7d".toList)]⟩
    (t.IsMarked ∧ ¬ ['/', '*'] <:+: t.plain) ∧
      String.ofList t.text = "a//*/*/\x7bb:/***//*\x7d@media\x7b\"/*;*/1\x7d" ∧
      stripComments t.text = "a/\x7bb:1\x7d".toList ∧
      parse (String.ofList t.text) = ⟨[⟨"a/", [("b", "1")], none⟩]⟩ := by
  intro t
  have hmarked : t.IsMarked := by
    refine ⟨fun p hp => contains_eq_false_iff.1 ?_, contains_eq_false_iff.1 (by decide),
      fun p hp => contains_eq_false_iff.1 ?_⟩
    · revert p
      decide
    · revert p
      decide
  have hplain : ¬ ['/', '*'] <:+: t.plain := contains_eq_false_iff.1 (by decide)
  obtain ⟨hstrip, hparse⟩ := reads_as_plain hmarked
  refine ⟨⟨hmarked, hplain⟩, by decide, hstrip.trans (by decide), (hparse hplain).trans ?_⟩
  decide +kernel

end Commented

end Reflow.Stylesheet
