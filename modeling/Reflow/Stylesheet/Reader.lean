import Reflow.Stylesheet
import Reflow.Text.Blank
import Reflow.Text.Search

/-!
# Reading stylesheets

Reading never fails. Comments go first; the media blocks are cut out by matching braces; what is
left, and the body of each block, is read as flat rules `selector { declarations }`.

* `stripComments` removes the comments; one that is never closed is no comment.
* `MediaSplit.of` cuts a text into media blocks and the pieces between them; put together again
  they are the text.
* `flatRules` lists the selectors and bodies of flat rules.
* `declarations` reads a rule's body.
* `Stylesheet.parse` is the stylesheet of a source text.
-/

namespace Reflow.Stylesheet

open Text

/-! ## Comments -/

/-- The text after the first end of a comment. -/
def afterComment? : List Char → Option (List Char)
  | [] => none
  | '*' :: '/' :: rest => some rest
  | _ :: rest => afterComment? rest

theorem length_afterComment? {s rest : List Char} (h : afterComment? s = some rest) :
    rest.length < s.length := by
  fun_induction afterComment? s with
  | case1 => simp at h
  | case2 tail => cases h; simp only [List.length_cons]; omega
  | case3 c tail _ ih => have := ih h; simp only [List.length_cons]; omega

/-- The text without its comments. -/
def stripComments (s : List Char) : List Char :=
  match s with
  | [] => []
  | '/' :: '*' :: tail =>
    match h : afterComment? tail with
    | some rest =>
      have := length_afterComment? h
      stripComments rest
    | none => '/' :: '*' :: tail
  | c :: tail => c :: stripComments tail
termination_by s.length
decreasing_by all_goals simp only [List.length_cons]; omega

/-! ## Media blocks -/

/-- The body of a block with `depth` further blocks open in it, and the text after the brace that
closes it, if one does. -/
def blockBody (depth : Nat) : List Char → List Char × Option (List Char)
  | [] => ([], none)
  | c :: s =>
    if c = '}' ∧ depth = 0 then ([], some s)
    else
      let inner := if c = '{' then depth + 1 else if c = '}' then depth - 1 else depth
      let (body, rest) := blockBody inner s
      (c :: body, rest)

theorem length_blockBody {depth : Nat} {s body rest : List Char}
    (h : blockBody depth s = (body, some rest)) : rest.length < s.length := by
  induction s generalizing depth body with
  | nil => simp [blockBody] at h
  | cons c s ih =>
    simp only [blockBody] at h
    split at h
    · cases h; simp
    · have := ih (Prod.ext rfl (Prod.ext_iff.1 h).2)
      simp; omega

/-- A media block and the text in front of it. -/
structure MediaBlock where
  gap : List Char
  header : List Char
  body : List Char
  closed : Bool
deriving DecidableEq, Repr

/-- The word that starts a media block. -/
def mediaWord : List Char := "@media".toList

namespace MediaBlock

/-- The condition of the block. -/
def condition (b : MediaBlock) : String := String.ofList (trim b.header)

/-- The block as written, without the text in front of it. -/
def text (b : MediaBlock) : List Char :=
  mediaWord ++ b.header ++ '{' :: b.body ++ if b.closed then ['}'] else []

end MediaBlock

/-- A text cut into its media blocks and the text after the last one. -/
structure MediaSplit where
  blocks : List MediaBlock
  tail : List Char
deriving DecidableEq, Repr

/-- Cuts a text at its media blocks. A block starts at the first media word that an opening brace
follows, and ends at the brace that closes it, or at the end of the text. -/
def MediaSplit.of (s : List Char) : MediaSplit :=
  match h : breakAt? mediaWord s with
  | none => ⟨[], s⟩
  | some (gap, afterWord) =>
    match h' : breakAt? ['{'] afterWord with
    | none => ⟨[], s⟩
    | some (header, inside) =>
      match h'' : blockBody 0 inside with
      | (body, none) => ⟨[⟨gap, header, body, false⟩], []⟩
      | (body, some rest) =>
        have : rest.length < s.length := by
          have h₁ := length_breakAt? h
          have h₂ := length_breakAt? h'
          have h₃ := length_blockBody h''
          omega
        let split := MediaSplit.of rest
        ⟨⟨gap, header, body, true⟩ :: split.blocks, split.tail⟩
termination_by s.length

namespace MediaSplit

/-- The text outside the media blocks. -/
def base (m : MediaSplit) : List Char := (m.blocks.flatMap (·.gap)) ++ m.tail

/-- The blocks with the offsets of their first characters and behind their last ones. -/
def placed (m : MediaSplit) : List (MediaBlock × Nat × Nat) :=
  go 0 m.blocks
where
  /-- The blocks of a text that starts at the given offset. -/
  go (offset : Nat) : List MediaBlock → List (MediaBlock × Nat × Nat)
    | [] => []
    | b :: rest =>
      let start := offset + b.gap.length
      let stop := start + b.text.length
      (b, start, stop) :: go stop rest

end MediaSplit

/-! ## Flat rules -/

/-- The selectors and bodies of the flat rules in a text. A selector is what stands before an
opening brace, a body what stands before the next closing one. -/
def flatRules (s : List Char) : List (List Char × List Char) :=
  let start := s.dropWhile (· == '{')
  match h : breakAt? ['{'] start with
  | none => []
  | some (selector, inside) =>
    match h' : breakAt? ['}'] inside with
    | none => []
    | some (body, rest) =>
      have : rest.length < s.length := by
        have h₀ : start.length ≤ s.length := length_dropWhile_le _ s
        have h₁ := length_breakAt? h
        have h₂ := length_breakAt? h'
        simp only [List.length_singleton] at h₁ h₂
        omega
      (selector, body) :: flatRules rest
termination_by s.length

/-- One declaration, a name and a value around the first colon. -/
def declaration? (fragment : List Char) : Option (String × String) :=
  (breakAt? [':'] fragment).map fun (name, value) =>
    (String.ofList (lower (trim name)), String.ofList (trim value))

/-- The declarations of a rule's body. Fragments without a colon are passed over. -/
def declarations (body : List Char) : Declarations :=
  .ofPairs ((splitAt ';' body).filterMap declaration?)

/-- The rules in a text, all under the same at-rule. -/
def rulesOf (atRule : Option AtRule) (s : List Char) : List Rule :=
  (flatRules s).map fun (selector, body) =>
    ⟨String.ofList (trim selector), declarations body, atRule⟩

/-- The stylesheet of a source text. -/
def parse (source : String) : Stylesheet :=
  let split := MediaSplit.of (stripComments source.toList)
  ⟨rulesOf none split.base
    ++ split.blocks.flatMap fun b => rulesOf (some ⟨"media", b.condition⟩) b.body⟩

end Reflow.Stylesheet
