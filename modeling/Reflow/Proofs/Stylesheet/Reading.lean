import Reflow.Proofs.Lists
import Reflow.Proofs.Text.Occurrence
import Reflow.Stylesheet.Reader

/-!
# Laws of reading

How the reader of `Reflow/Stylesheet/Reader.lean` goes through a text, one construct at a time.

* `stripComments_of_not_infix`: a text that starts no comment stays as it is.
* `blockBody_append`, `blockBody_open`, `blockBody_close`: the body of a block goes on through
  text without braces and through braces that match.
* `MediaSplit.of_not_infix`, `MediaSplit.of_block`: a text without media blocks, and the cut at
  the first one.
* `flatRules_gap_append`, `flatRules_append`: the first rule of a text.
* `declaration?_append`: a declaration is cut at its first colon.
-/

namespace Reflow.Stylesheet

open Text

variable {a s rest selector body header gap name value : List Char} {depth : Nat}

/-! ## Comments -/

theorem stripComments_of_not_infix (h : ¬ ['/', '*'] <:+: s) : stripComments s = s := by
  fun_induction stripComments s with
  | case1 => rfl
  | case2 tail => exact absurd (List.prefix_append ['/', '*'] tail).isInfix h
  | case3 tail => rfl
  | case4 c tail _ ih => rw [ih fun hi => h (List.infix_cons hi)]

/-! ## Bodies of blocks -/

/-- Text without braces goes into the body. -/
theorem blockBody_append (ho : '{' ∉ a) (hc : '}' ∉ a) (depth : Nat) (s : List Char) :
    blockBody depth (a ++ s) = (a ++ (blockBody depth s).1, (blockBody depth s).2) := by
  induction a with
  | nil => rfl
  | cons c a ih =>
    obtain ⟨ho', ho⟩ := not_or.1 (mt List.mem_cons.2 ho)
    obtain ⟨hc', hc⟩ := not_or.1 (mt List.mem_cons.2 hc)
    rw [List.cons_append, blockBody, if_neg fun h => hc' h.1.symm, if_neg (Ne.symm ho'),
      if_neg (Ne.symm hc')]
    simp only [ih ho hc, List.cons_append]

/-- An opening brace goes into the body and opens one more block. -/
theorem blockBody_open (depth : Nat) (s : List Char) :
    blockBody depth ('{' :: s) =
      ('{' :: (blockBody (depth + 1) s).1, (blockBody (depth + 1) s).2) := by
  rw [blockBody, if_neg (by simp), if_pos rfl]

/-- A closing brace goes into the body as long as a block is open in it. -/
theorem blockBody_close (depth : Nat) (s : List Char) :
    blockBody (depth + 1) ('}' :: s) = ('}' :: (blockBody depth s).1, (blockBody depth s).2) := by
  rw [blockBody, if_neg (by simp), if_neg (by simp), if_pos rfl]
  rfl

theorem blockBody_end (s : List Char) : blockBody 0 ('}' :: s) = ([], some s) := by
  rw [blockBody, if_pos ⟨rfl, rfl⟩]

/-! ## Cuts at media blocks -/

theorem MediaSplit.of_not_infix (h : ¬ mediaWord <:+: s) : MediaSplit.of s = ⟨[], s⟩ := by
  rw [MediaSplit.of]
  split
  · rfl
  · next hb => rw [breakAt?_eq_none_iff.2 h] at hb; cases hb

/-- The cut at the first media block, if it is closed. -/
theorem MediaSplit.of_block (hg : ¬ mediaWord <:+: gap) (hh : '{' ∉ header)
    (hb : blockBody 0 s = (body, some rest)) :
    MediaSplit.of (gap ++ (mediaWord ++ (header ++ '{' :: s))) =
      ⟨⟨gap, header, body, true⟩ :: (MediaSplit.of rest).blocks, (MediaSplit.of rest).tail⟩ := by
  have hw : breakAt? mediaWord (gap ++ (mediaWord ++ (header ++ '{' :: s))) =
      some (gap, header ++ '{' :: s) := breakAt?_append (by decide) hg
  have ho := breakAt?_singleton hh s
  rw [MediaSplit.of]
  split
  · next h => rw [hw] at h; cases h
  · next g afterWord h =>
    rw [hw] at h
    cases h
    split
    · next h' => rw [ho] at h'; cases h'
    · next hd inside h' =>
      rw [ho] at h'
      cases h'
      split
      · next h'' => rw [hb] at h''; cases h''
      · next h'' => rw [hb] at h''; cases h''; rfl

/-! ## Flat rules -/

theorem flatRules_nil : flatRules [] = [] := by
  rw [flatRules]
  rfl

/-- A text that opens no block has no rules. -/
theorem flatRules_of_not_mem (h : '{' ∉ s) : flatRules s = [] := by
  have hstart : ¬ ['{'] <:+: s.dropWhile (· == '{') := fun hi =>
    h ((List.dropWhile_suffix _).subset (hi.subset List.mem_cons_self))
  rw [flatRules]
  split
  · rfl
  · next hb => rw [breakAt?_eq_none_iff.2 hstart] at hb; cases hb

/-- The first rule of a text. Opening braces in front of it belong to no rule. -/
theorem flatRules_gap_append (hg : ∀ c ∈ gap, c = '{') (hs : selector ≠ []) (ho : '{' ∉ selector)
    (hc : '}' ∉ body) (s : List Char) :
    flatRules (gap ++ (selector ++ '{' :: (body ++ '}' :: s))) =
      (selector, body) :: flatRules s := by
  have hstop : ∀ c ∈ (selector ++ '{' :: (body ++ '}' :: s)).head?, (c == '{') = false := by
    obtain ⟨c, selector, rfl⟩ := List.exists_cons_of_ne_nil hs
    rintro d ⟨⟩
    simpa using fun h : c = '{' => ho (h ▸ List.mem_cons_self)
  have hd : (gap ++ (selector ++ '{' :: (body ++ '}' :: s))).dropWhile (· == '{') =
      selector ++ '{' :: (body ++ '}' :: s) :=
    dropWhile_run (fun c hc => beq_iff_eq.2 (hg c hc)) hstop
  rw [flatRules]
  split
  · next h => rw [hd, breakAt?_singleton ho] at h; cases h
  · next h =>
    rw [hd, breakAt?_singleton ho] at h
    cases h
    split
    · next h' => rw [breakAt?_singleton hc] at h'; cases h'
    · next h' => rw [breakAt?_singleton hc] at h'; cases h'; rfl

theorem flatRules_append (hs : selector ≠ []) (ho : '{' ∉ selector) (hc : '}' ∉ body)
    (s : List Char) :
    flatRules (selector ++ '{' :: (body ++ '}' :: s)) = (selector, body) :: flatRules s :=
  flatRules_gap_append (List.forall_mem_nil _) hs ho hc s

/-! ## Declarations -/

theorem declaration?_append (hn : ':' ∉ name) (value : List Char) :
    declaration? (name ++ ':' :: value) =
      some (String.ofList (lower (trim name)), String.ofList (trim value)) := by
  rw [declaration?, breakAt?_singleton hn]
  rfl

end Reflow.Stylesheet
