import Reflow.Proofs.Stylesheet.Partition
import Reflow.Proofs.Text.Characters

/-!
# Reading what was cut and rebuilt

A text that was cut at its media blocks can be put together in another order: first what stands
outside the blocks, then the blocks, one behind the other. It reads as the same stylesheet.

* `MediaSplit.rebuilt`: the text, put together again.
* `MediaSplit.of_rebuilt`: cutting it gives the same base, conditions and bodies. Where two parts
  meet, no media word and no brace comes about that belongs to both.
* `parse_rebuilt`: so it reads as the same stylesheet.
-/

namespace Reflow.Stylesheet

open Text

/-- The block with its trimmed condition between two spaces. -/
def MediaBlock.rebuilt (b : MediaBlock) : List Char :=
  mediaWord ++ (' ' :: (b.condition.toList ++ [' ']) ++ '{' :: (b.body ++ ['}']))

/-- The text outside the blocks, and the blocks behind it. -/
def MediaSplit.rebuilt (m : MediaSplit) : List Char :=
  m.base ++ m.blocks.flatMap MediaBlock.rebuilt

/-- A cut whose blocks are all closed, where no media word and no comment starts in a part that it
did not start in before. -/
structure MediaSplit.IsRebuildable (m : MediaSplit) : Prop where
  closed : ∀ b ∈ m.blocks, b.closed
  noMedia : ¬ mediaWord <:+: m.base
  noComment : ¬ ['/', '*'] <:+: m.base
  noComment_block : ∀ b ∈ m.blocks,
    ¬ ['/', '*'] <:+: b.condition.toList ∧ ¬ ['/', '*'] <:+: b.body

instance (m : MediaSplit) : Decidable m.IsRebuildable :=
  decidable_of_iff ((∀ b ∈ m.blocks, b.closed) ∧ contains mediaWord m.base = false ∧
      contains ['/', '*'] m.base = false ∧ ∀ b ∈ m.blocks,
        contains ['/', '*'] b.condition.toList = false ∧ contains ['/', '*'] b.body = false)
    (by
      simp only [contains_eq_false_iff]
      exact ⟨fun ⟨h₁, h₂, h₃, h₄⟩ => ⟨h₁, h₂, h₃, h₄⟩, fun ⟨h₁, h₂, h₃, h₄⟩ => ⟨h₁, h₂, h₃, h₄⟩⟩)

variable {s gap : List Char} {b : MediaBlock} {blocks : List MediaBlock}

/-! ## One block -/

/-- A closed body is read again whatever comes behind it. -/
theorem MediaBlock.IsCutOut.blockBody_eq (h : b.IsCutOut) (hclosed : b.closed) (s : List Char) :
    blockBody 0 (b.body ++ '}' :: s) = (b.body, some s) := by
  have hdone := h.closing hclosed
  rw [depthBehind_concat_close] at hdone
  exact blockBody_eq_some_iff.2 ⟨rfl, h.body, by rw [Nat.zero_add]; omega⟩

/-- A rebuilt header has no brace that the header did not have, and the same condition. -/
theorem MediaBlock.IsCutOut.rebuilt_header (h : b.IsCutOut) :
    '{' ∉ ' ' :: (b.condition.toList ++ [' ']) ∧
      String.ofList (trim (' ' :: (b.condition.toList ++ [' ']))) = b.condition := by
  have hsub : ∀ c ∈ b.condition.toList, c ∈ b.header := by
    intro c hc
    rw [condition, String.toList_ofList] at hc
    exact (List.dropWhile_suffix _).subset ((List.rdropWhile_prefix isBlank _).subset hc)
  have hspace : ∀ c ∈ [' '], isBlank c := List.all_eq_true.1 (by decide)
  constructor
  · intro hc
    simp only [List.mem_cons, List.mem_append, List.not_mem_nil, or_false] at hc
    rcases hc with hc | hc | hc
    · cases hc
    · exact h.header (hsub _ hc)
    · cases hc
  · rw [← List.singleton_append, trim_append_left hspace, trim_append_right hspace, condition,
      String.toList_ofList, trim_trim]

/-! ## All blocks -/

/-- Cutting a rebuilt text gives what it was built from. The induction is on the blocks, for any
text without a media word in front of them. -/
theorem MediaSplit.of_rebuilt (hgap : ¬ mediaWord <:+: gap)
    (hcut : ∀ b ∈ blocks, b.IsCutOut) (hclosed : ∀ b ∈ blocks, b.closed) :
    (MediaSplit.of (gap ++ blocks.flatMap MediaBlock.rebuilt)).base = gap ∧
      (MediaSplit.of (gap ++ blocks.flatMap MediaBlock.rebuilt)).blocks.map
          (fun b => (b.condition, b.body)) = blocks.map fun b => (b.condition, b.body) := by
  induction blocks generalizing gap with
  | nil =>
    rw [List.flatMap_nil, List.append_nil, MediaSplit.of_not_infix hgap]
    exact ⟨rfl, rfl⟩
  | cons b blocks ih =>
    obtain ⟨hb, hblocks⟩ := List.forall_mem_cons.1 hcut
    obtain ⟨hbclosed, hclosed⟩ := List.forall_mem_cons.1 hclosed
    have hnil : ¬ mediaWord <:+: [] := by decide
    obtain ⟨hbase, hparts⟩ := ih hnil hblocks hclosed
    rw [List.nil_append] at hbase hparts
    obtain ⟨hheader, hcondition⟩ := hb.rebuilt_header
    have hof := MediaSplit.of_block hgap hheader
      (hb.blockBody_eq hbclosed (blocks.flatMap MediaBlock.rebuilt))
    have htext : gap ++ (b :: blocks).flatMap MediaBlock.rebuilt =
        gap ++ (mediaWord ++ (' ' :: (b.condition.toList ++ [' ']) ++
          '{' :: (b.body ++ '}' :: blocks.flatMap MediaBlock.rebuilt))) := by
      simp [MediaBlock.rebuilt]
    rw [htext, hof]
    constructor
    · rw [base] at hbase ⊢
      rw [List.flatMap_cons, List.append_assoc, hbase, List.append_nil]
    · rw [List.map_cons, List.map_cons, hparts]
      exact congrArg (fun condition => (condition, b.body) :: _) hcondition

/-- No comment starts where the parts of a rebuilt text meet. -/
theorem not_infix_rebuilt (hgap : ¬ ['/', '*'] <:+: gap)
    (h : ∀ b ∈ blocks, ¬ ['/', '*'] <:+: b.condition.toList ∧ ¬ ['/', '*'] <:+: b.body) :
    ¬ ['/', '*'] <:+: gap ++ blocks.flatMap MediaBlock.rebuilt := by
  induction blocks generalizing gap with
  | nil => simpa using hgap
  | cons b blocks ih =>
    obtain ⟨⟨hcondition, hbody⟩, hblocks⟩ := List.forall_mem_cons.1 h
    have hnil : ¬ ['/', '*'] <:+: [] := by decide
    have hword : ¬ ['/', '*'] <:+: "media".toList := by decide
    have hrest := ih hnil hblocks
    have htext : gap ++ (b :: blocks).flatMap MediaBlock.rebuilt =
        gap ++ '@' :: ("media".toList ++ ' ' :: (b.condition.toList ++ ' ' ::
          ([] ++ '{' :: (b.body ++ '}' :: ([] ++ blocks.flatMap MediaBlock.rebuilt))))) := by
      simp [MediaBlock.rebuilt, mediaWord]
    rw [htext]
    exact not_infix_append_cons (by decide) hgap <|
      not_infix_append_cons (by decide) hword <|
      not_infix_append_cons (by decide) hcondition <|
      not_infix_append_cons (by decide) hnil <|
      not_infix_append_cons (by decide) hbody hrest

/-! ## Stylesheets -/

/-- The rules of media blocks are read from their conditions and bodies. -/
theorem flatMap_rulesOf_eq (blocks : List MediaBlock) :
    (blocks.flatMap fun b => rulesOf (some ⟨"media", b.condition⟩) b.body) =
      (blocks.map fun b => (b.condition, b.body)).flatMap fun p =>
        rulesOf (some ⟨"media", p.1⟩) p.2 := by
  rw [List.flatMap_map]

/-- A source text that is cut and rebuilt reads as the same stylesheet. -/
theorem parse_rebuilt {source : String}
    (h : (MediaSplit.of (stripComments source.toList)).IsRebuildable) :
    parse (String.ofList (MediaSplit.of (stripComments source.toList)).rebuilt) = parse source := by
  have hcut := (MediaSplit.cutsInto_of (stripComments source.toList)).isCutOut
  obtain ⟨hbase, hparts⟩ := MediaSplit.of_rebuilt h.noMedia hcut h.closed
  have hcomment := not_infix_rebuilt h.noComment h.noComment_block
  rw [parse, String.toList_ofList, MediaSplit.rebuilt, stripComments_of_not_infix hcomment, parse]
  rw [flatMap_rulesOf_eq, hbase, hparts, ← flatMap_rulesOf_eq]

/-- A comment, a block in a block, a stray semicolon, and a rule that is not closed. -/
theorem parse_rebuilt_nested :
    let source := "a\x7bx:1/**/\x7d@media p \x7b b\x7by:2\x7d @media q\x7bc\x7b\x7d\x7d;\x7d d\x7bz"
    let m := MediaSplit.of (stripComments source.toList)
    m.IsRebuildable ∧ String.ofList m.rebuilt =
        "a\x7bx:1\x7d d\x7bz@media p \x7b b\x7by:2\x7d @media q\x7bc\x7b\x7d\x7d;\x7d" ∧
      parse (String.ofList m.rebuilt) = parse source := by
  intro source m
  have hm : m.IsRebuildable := by decide +kernel
  exact ⟨hm, by decide +kernel, parse_rebuilt hm⟩

end Reflow.Stylesheet
