import Mathlib.Data.List.Infix
import Reflow.Proofs.Stylesheet.Reading
import Reflow.Proofs.Text.Matching

/-!
# Media blocks part a text

Cutting a text at its media blocks puts every character of it into one place: into a block, or into
one of the pieces around the blocks. This holds of any text, whatever its braces do.

* `blockBody_eq_some_iff`: the body of a block goes on exactly as long as the block stays open,
  where open braces are counted (`depthBehind`) and not followed one by one.
* `CutsInto`: what blocks and which rest a text is cut into, one constructor for each way a cut
  can end.
* `MediaSplit.cutsInto_of`: cutting finds such blocks, and `CutsInto.written_append` that they are
  the text when put together.
* `MediaSplit.partitions_of`: the places of the blocks, their order, and the pieces around them.
-/

namespace Reflow.Stylesheet

open Text

variable {s p body rest tail front : List Char} {c : Char} {depth : Nat} {b : MediaBlock}
  {blocks : List MediaBlock}

/-! ## Open blocks -/

/-- How many blocks are open behind a text, if `depth` are in front of it. -/
def depthBehind (depth : Nat) (s : List Char) : Int := depth + s.count '{' - s.count '}'

/-- The block that was opened first, of the `depth` that are open in front of the text, stays open
all through it. -/
def StaysOpen (depth : Nat) (s : List Char) : Prop := ∀ p, p <+: s → 1 ≤ depthBehind depth p

theorem staysOpen_nil : StaysOpen (depth + 1) [] := by
  intro p hp
  rw [List.prefix_nil.1 hp]
  simp only [depthBehind, List.count_nil]
  omega

/-- Where a character is counted, the block stays open behind it. -/
theorem staysOpen_cons_iff {inner : Nat}
    (h : ∀ p, depthBehind (depth + 1) (c :: p) = depthBehind (inner + 1) p) :
    StaysOpen (depth + 1) (c :: s) ↔ StaysOpen (inner + 1) s := by
  constructor
  · intro hopen p hp
    rw [← h]
    exact hopen (c :: p) (List.cons_prefix_cons.2 ⟨rfl, hp⟩)
  · intro hopen p hp
    rcases List.prefix_cons_iff.1 hp with rfl | ⟨t, rfl, ht⟩
    · exact staysOpen_nil [] (List.prefix_refl [])
    · rw [h]
      exact hopen t ht

theorem depthBehind_concat_close : depthBehind depth (s ++ ['}']) = depthBehind depth s - 1 := by
  simp only [depthBehind, List.count_append, List.count_singleton]
  simp
  omega

/-- A character that does not end the body goes into it, and the blocks that are open behind it
are counted from there on. -/
theorem blockBody_cons (h : ¬ (c = '}' ∧ depth = 0)) (s : List Char) :
    ∃ inner, blockBody depth (c :: s) = (c :: (blockBody inner s).1, (blockBody inner s).2) ∧
      ∀ p, depthBehind (depth + 1) (c :: p) = depthBehind (inner + 1) p := by
  refine ⟨if c = '{' then depth + 1 else if c = '}' then depth - 1 else depth, ?_, fun p => ?_⟩
  · rw [blockBody, if_neg h]
  · simp only [depthBehind, List.count_cons, beq_iff_eq]
    split <;> split <;> simp_all <;> omega

/-- The body of a block ends at the brace that closes the block. -/
theorem blockBody_eq_some_iff : blockBody depth s = (body, some rest) ↔
    s = body ++ '}' :: rest ∧ StaysOpen (depth + 1) body ∧ depthBehind (depth + 1) body = 1 := by
  induction s generalizing depth body with
  | nil => simp [blockBody]
  | cons c s ih =>
    by_cases hend : c = '}' ∧ depth = 0
    · obtain ⟨rfl, rfl⟩ := hend
      rw [blockBody_end]
      constructor
      · rintro ⟨⟩
        exact ⟨rfl, staysOpen_nil, rfl⟩
      · rintro ⟨hs, hopen, -⟩
        cases body with
        | nil => cases hs; rfl
        | cons d body =>
          -- The block would be closed inside the body.
          obtain ⟨rfl, -⟩ := List.cons.inj hs
          have := hopen ['}'] (List.prefix_append ['}'] body)
          simp [depthBehind] at this
    · obtain ⟨inner, hstep, hdepth⟩ := blockBody_cons hend s
      rw [hstep]
      constructor
      · intro h
        obtain ⟨rfl, hrest⟩ := Prod.mk.inj h
        have hinner : blockBody inner s = ((blockBody inner s).1, some rest) := Prod.ext rfl hrest
        obtain ⟨hs, hopen, hdone⟩ := ih.1 hinner
        refine ⟨by rw [List.cons_append, ← hs], (staysOpen_cons_iff hdepth).2 hopen, ?_⟩
        rw [hdepth, hdone]
      · rintro ⟨hs, hopen, hdone⟩
        cases body with
        | nil =>
          obtain ⟨rfl, -⟩ := List.cons.inj hs
          have hzero : (depth : Int) + 1 = 1 := by simpa [depthBehind] using hdone
          exact absurd ⟨rfl, by omega⟩ hend
        | cons d body =>
          obtain ⟨rfl, htail⟩ := List.cons.inj hs
          rw [ih.2 ⟨htail, (staysOpen_cons_iff hdepth).1 hopen, by rw [← hdepth, hdone]⟩]

/-- A body without an end goes on to the end of the text. -/
theorem blockBody_eq_none (h : blockBody depth s = (body, none)) :
    body = s ∧ StaysOpen (depth + 1) s := by
  induction s generalizing depth body with
  | nil =>
    cases h
    exact ⟨rfl, staysOpen_nil⟩
  | cons c s ih =>
    by_cases hend : c = '}' ∧ depth = 0
    · obtain ⟨rfl, rfl⟩ := hend
      rw [blockBody_end] at h
      cases h
    · obtain ⟨inner, hstep, hdepth⟩ := blockBody_cons hend s
      rw [hstep] at h
      obtain ⟨rfl, hnone⟩ := Prod.mk.inj h
      have hinner : blockBody inner s = ((blockBody inner s).1, none) := Prod.ext rfl hnone
      obtain ⟨hs, hopen⟩ := ih hinner
      exact ⟨by rw [hs], (staysOpen_cons_iff hdepth).2 hopen⟩

/-! ## Blocks that are cut out -/

namespace MediaBlock

/-- The block as written, with the text in front of it. -/
def written (b : MediaBlock) : List Char := b.gap ++ b.text

/-- A block as it is cut out of a text: no block starts in the text in front of it, its header ends
at the first opening brace, and its body where that brace is closed. -/
structure IsCutOut (b : MediaBlock) : Prop where
  gap : ¬ mediaWord <:+: b.gap
  header : '{' ∉ b.header
  body : StaysOpen 1 b.body
  closing : b.closed → depthBehind 1 (b.body ++ ['}']) = 0

end MediaBlock

/-- What a text is cut into: its media blocks, and the text after the last one. Behind a block that
is not closed there is nothing left. -/
inductive CutsInto : List Char → List MediaBlock → List Char → Prop
  | tail {s : List Char}
    (h : ∀ gap rest, s = gap ++ (mediaWord ++ rest) → ¬ mediaWord <:+: gap → '{' ∉ rest) :
    CutsInto s [] s
  | unclosed {b : MediaBlock} (hb : b.IsCutOut) (hopen : b.closed = false) :
    CutsInto b.written [b] []
  | closed {b : MediaBlock} {blocks : List MediaBlock} {rest tail : List Char} (hb : b.IsCutOut)
    (hclosed : b.closed) (hrest : CutsInto rest blocks tail) :
    CutsInto (b.written ++ rest) (b :: blocks) tail

theorem MediaSplit.cutsInto_of (s : List Char) :
    CutsInto s (MediaSplit.of s).blocks (MediaSplit.of s).tail := by
  fun_induction MediaSplit.of s with
  | case1 s hword =>
    refine .tail fun gap rest hs _ => absurd ?_ (breakAt?_eq_none_iff.1 hword)
    exact ⟨gap, rest, by rw [hs, List.append_assoc]⟩
  | case2 s gap afterWord hword hbrace =>
    refine .tail fun gap' rest hs hgap => ?_
    have hfirst : breakAt? mediaWord s = some (gap', rest) := hs ▸ breakAt?_append (by decide) hgap
    cases hword.symm.trans hfirst
    exact mt (List.singleton_infix_iff '{' _).2 (breakAt?_eq_none_iff.1 hbrace)
  | case3 s gap afterWord hword header inside hbrace body hbody =>
    obtain ⟨rfl, hgap⟩ := breakAt?_eq_some (by decide) hword
    obtain ⟨rfl, hheader⟩ := breakAt?_eq_some (by decide) hbrace
    obtain ⟨rfl, hopen⟩ := blockBody_eq_none hbody
    have hheader : '{' ∉ header := mt (List.singleton_infix_iff '{' _).2 hheader
    have hb : MediaBlock.IsCutOut ⟨gap, header, body, false⟩ := ⟨hgap, hheader, hopen, nofun⟩
    have htext := CutsInto.unclosed hb rfl
    simpa [MediaBlock.written, MediaBlock.text] using htext
  | case4 s gap afterWord hword header inside hbrace body rest hbody hlt split ih =>
    obtain ⟨rfl, hgap⟩ := breakAt?_eq_some (by decide) hword
    obtain ⟨rfl, hheader⟩ := breakAt?_eq_some (by decide) hbrace
    obtain ⟨rfl, hopen, hdone⟩ := blockBody_eq_some_iff.1 hbody
    have hheader : '{' ∉ header := mt (List.singleton_infix_iff '{' _).2 hheader
    have hclosing : depthBehind 1 (body ++ ['}']) = 0 := by
      rw [depthBehind_concat_close, hdone]
      rfl
    have hb : MediaBlock.IsCutOut ⟨gap, header, body, true⟩ :=
      ⟨hgap, hheader, hopen, fun _ => hclosing⟩
    have htext := CutsInto.closed hb rfl ih
    simpa [MediaBlock.written, MediaBlock.text] using htext

namespace CutsInto

variable (h : CutsInto s blocks tail)
include h

/-- Put together again, the blocks and the pieces around them are the text. -/
theorem written_append : blocks.flatMap MediaBlock.written ++ tail = s := by
  induction h with
  | tail h => rfl
  | unclosed hb hopen => simp
  | closed hb hclosed hrest ih => rw [List.flatMap_cons, List.append_assoc, ih]

theorem isCutOut : ∀ b ∈ blocks, b.IsCutOut := by
  induction h with
  | tail h => nofun
  | unclosed hb hopen => exact List.forall_mem_singleton.2 hb
  | closed hb hclosed hrest ih => exact List.forall_mem_cons.2 ⟨hb, ih⟩

/-- Nothing stands behind a block that is not closed. -/
theorem closed_or_last {before after : List MediaBlock} (hblocks : blocks = before ++ b :: after) :
    b.closed ∨ after = [] ∧ tail = [] := by
  induction h generalizing before with
  | tail h => simp at hblocks
  | unclosed hb hopen =>
    obtain ⟨-, -, rfl⟩ := List.singleton_eq_append_iff.1 hblocks |>.resolve_right (by simp)
    exact .inr ⟨rfl, rfl⟩
  | closed hb hclosed hrest ih =>
    cases before with
    | nil =>
      obtain ⟨rfl, -⟩ := List.cons.inj hblocks
      exact .inl hclosed
    | cons first before => exact ih (List.cons.inj hblocks).2

theorem noBlock_tail {gap rest : List Char} (htail : tail = gap ++ (mediaWord ++ rest))
    (hgap : ¬ mediaWord <:+: gap) : '{' ∉ rest := by
  induction h with
  | tail h => exact h gap rest htail hgap
  | unclosed hb hopen => simp [mediaWord] at htail
  | closed hb hclosed hrest ih => exact ih htail

end CutsInto

/-! ## Places -/

namespace MediaSplit

variable {offset : Nat} {place : MediaBlock × Nat × Nat}
  {before after : List (MediaBlock × Nat × Nat)}

theorem map_fst_go (offset : Nat) (blocks : List MediaBlock) :
    (placed.go offset blocks).map (·.1) = blocks := by
  induction blocks generalizing offset with
  | nil => rfl
  | cons b blocks ih => rw [placed.go, List.map_cons, ih]

/-- A block is placed behind the blocks before it and the text in front of it. -/
theorem place_of_go (h : placed.go offset blocks = before ++ place :: after) :
    place.2.1 = offset + ((before.map (·.1)).flatMap MediaBlock.written).length +
        place.1.gap.length ∧
      place.2.2 = place.2.1 + place.1.text.length := by
  induction before generalizing offset blocks with
  | nil =>
    cases blocks with
    | nil => cases h
    | cons b blocks =>
      obtain ⟨rfl, -⟩ := List.cons.inj h
      exact ⟨rfl, rfl⟩
  | cons first before ih =>
    cases blocks with
    | nil => cases h
    | cons b blocks =>
      obtain ⟨rfl, hrest⟩ := List.cons.inj h
      obtain ⟨hstart, hstop⟩ := ih hrest
      refine ⟨?_, hstop⟩
      rw [hstart, List.map_cons, List.flatMap_cons, List.length_append, MediaBlock.written,
        List.length_append]
      dsimp only
      omega

theorem offset_le_of_mem_go (h : place ∈ placed.go offset blocks) : offset ≤ place.2.1 := by
  obtain ⟨before, after, h⟩ := List.append_of_mem h
  have := (place_of_go h).1
  omega

theorem pairwise_go (offset : Nat) (blocks : List MediaBlock) :
    (placed.go offset blocks).Pairwise fun p q => p.2.2 ≤ q.2.1 := by
  induction blocks generalizing offset with
  | nil => exact .nil
  | cons b blocks ih => exact .cons (fun _ => offset_le_of_mem_go) (ih _)

end MediaSplit

/-- The pieces of a text outside the spans, from an offset on: one in front of each span, and one
behind the last. -/
def outside (s : List Char) (last : Nat) : List (Nat × Nat) → List (List Char)
  | [] => [s.drop last]
  | (start, stop) :: spans => Extent.cut ⟨last, start - last⟩ s :: outside s stop spans

/-- The pieces around the places of the blocks are the texts in front of them and the tail. -/
theorem outside_go (front : List Char) (blocks : List MediaBlock) (tail : List Char) :
    outside (front ++ (blocks.flatMap MediaBlock.written ++ tail)) front.length
        ((MediaSplit.placed.go front.length blocks).map (·.2)) = blocks.map (·.gap) ++ [tail] := by
  induction blocks generalizing front with
  | nil => simp [MediaSplit.placed.go, outside]
  | cons b blocks ih =>
    have hlength : (front ++ b.written).length = front.length + b.gap.length + b.text.length := by
      rw [List.length_append, MediaBlock.written, List.length_append, Nat.add_assoc]
    have hgap : front ++ ((b :: blocks).flatMap MediaBlock.written ++ tail) =
        front ++ (b.gap ++ (b.text ++ (blocks.flatMap MediaBlock.written ++ tail))) := by
      simp [MediaBlock.written]
    have hrest : front ++ ((b :: blocks).flatMap MediaBlock.written ++ tail) =
        (front ++ b.written) ++ (blocks.flatMap MediaBlock.written ++ tail) := by
      simp
    rw [MediaSplit.placed.go, List.map_cons, outside, Nat.add_sub_cancel_left, List.map_cons,
      List.cons_append]
    congr 1
    · rw [hgap, cut_append]
    · rw [hrest, ← ih (front ++ b.written), hlength]

/-! ## Partitions -/

/-- The block stands in the text from one offset up to another: the media word, a header, the body
in braces, where the closing one may be missing. -/
structure MediaBlock.StandsAt (b : MediaBlock) (s : List Char) (start stop : Nat) : Prop where
  start_lt : start < stop
  stop_le : stop ≤ s.length
  text : Extent.cut ⟨start, stop - start⟩ s =
    mediaWord ++ b.header ++ '{' :: b.body ++ if b.closed then ['}'] else []
  condition : b.condition = String.ofList (trim b.header)

/-- The blocks and the tail are a partition of the text. -/
structure MediaSplit.Partitions (m : MediaSplit) (s : List Char) : Prop where
  blocks : m.placed.map (·.1) = m.blocks
  isCutOut : ∀ b ∈ m.blocks, b.IsCutOut
  standsAt : ∀ place ∈ m.placed, place.1.StandsAt s place.2.1 place.2.2
  ordered : m.placed.Pairwise fun p q => p.2.2 ≤ q.2.1
  closed_or_last : ∀ before place after, m.placed = before ++ place :: after →
    place.1.closed ∨ after = [] ∧ place.2.2 = s.length
  noBlock_tail : ∀ gap rest, m.tail = gap ++ (mediaWord ++ rest) → ¬ mediaWord <:+: gap →
    '{' ∉ rest
  pieces : outside s 0 (m.placed.map (·.2)) = m.blocks.map (·.gap) ++ [m.tail]
  base : m.base = (outside s 0 (m.placed.map (·.2))).flatten
  whole : (m.blocks.flatMap fun b => b.gap ++ b.text) ++ m.tail = s

theorem MediaBlock.length_text_pos (b : MediaBlock) : 0 < b.text.length := by
  simp only [text, List.length_append, List.length_cons]
  omega

/-- The text around the place of a block. -/
theorem MediaSplit.exists_append_of_placed {place : MediaBlock × Nat × Nat}
    {before after : List (MediaBlock × Nat × Nat)}
    (h : (MediaSplit.of s).placed = before ++ place :: after) :
    ∃ front, s = front ++ (place.1.text ++
        ((after.map (·.1)).flatMap MediaBlock.written ++ (MediaSplit.of s).tail)) ∧
      place.2.1 = front.length ∧ place.2.2 = front.length + place.1.text.length := by
  obtain ⟨hstart, hstop⟩ := place_of_go h
  have hblocks : (MediaSplit.of s).placed.map (·.1) = (MediaSplit.of s).blocks := map_fst_go 0 _
  have hwhole := (cutsInto_of s).written_append
  rw [← hblocks, h] at hwhole
  refine ⟨(before.map (·.1)).flatMap MediaBlock.written ++ place.1.gap, ?_, ?_, ?_⟩
  · simpa [MediaBlock.written] using hwhole.symm
  · rw [hstart, List.length_append, Nat.zero_add]
  · rw [hstop, hstart, List.length_append, Nat.zero_add]

/-- Cutting a text at its media blocks gives a partition of it. -/
theorem MediaSplit.partitions_of (s : List Char) : (MediaSplit.of s).Partitions s := by
  have hcut := cutsInto_of s
  have hblocks : (MediaSplit.of s).placed.map (·.1) = (MediaSplit.of s).blocks := map_fst_go 0 _
  have hpieces : outside s 0 ((MediaSplit.of s).placed.map (·.2)) =
      (MediaSplit.of s).blocks.map (·.gap) ++ [(MediaSplit.of s).tail] := by
    have h := outside_go [] (MediaSplit.of s).blocks (MediaSplit.of s).tail
    rwa [hcut.written_append] at h
  refine ⟨hblocks, hcut.isCutOut, fun place hplace => ?_, pairwise_go 0 _,
    fun before place after hplace => ?_, fun _ _ => hcut.noBlock_tail, hpieces, ?_,
    hcut.written_append⟩
  · obtain ⟨before, after, hplace⟩ := List.append_of_mem hplace
    obtain ⟨front, hs, hstart, hstop⟩ := exists_append_of_placed hplace
    have hpos := place.1.length_text_pos
    refine ⟨by omega, ?_, ?_, rfl⟩
    · rw [hstop, congrArg List.length hs, List.length_append, List.length_append]
      omega
    · rw [hstart, hstop, Nat.add_sub_cancel_left, congrArg (Extent.cut _) hs, cut_append]
      rfl
  · have hsplit : (MediaSplit.of s).blocks = before.map (·.1) ++ place.1 :: after.map (·.1) := by
      rw [← hblocks, hplace, List.map_append, List.map_cons]
    refine (hcut.closed_or_last hsplit).imp_right fun ⟨hafter, htail⟩ => ?_
    obtain ⟨front, hs, -, hstop⟩ := exists_append_of_placed hplace
    rw [hafter, htail] at hs
    refine ⟨List.map_eq_nil_iff.1 hafter, ?_⟩
    rw [hstop, congrArg List.length hs]
    simp
  · rw [hpieces, List.flatten_append, base, List.flatMap, List.flatten_singleton]

end Reflow.Stylesheet
