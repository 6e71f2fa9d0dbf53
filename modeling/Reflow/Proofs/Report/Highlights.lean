import Reflow.Proofs.Length.Units
import Reflow.Report.Markdown

/-!
# Lengths and units set as code

Setting lengths and units as code adds marks and nothing else. The marks part the text into
passages, plain text with a length or the name of a unit behind it, and a tail without any.

* `passagesAfter`, `tailAfter`: the passages that pieces of a text make up, and what is behind them.
* `splitAt_marked`: the marks stand around the code of the passages.
* `highlight_sets_units`: nothing but units is set as code, and each of them is.
-/

namespace Reflow.Markdown

open Text Text.Pattern Length

/-- Plain text and the code behind it. -/
structure Passage where
  gap : List Char
  code : List Char
deriving DecidableEq, Repr

/-- The text of a passage, without marks. -/
def Passage.text (p : Passage) : List Char := p.gap ++ p.code

/-- The passages of a text that starts with a gap. -/
def passagesAfter (gap : List Char) : List Piece → List Passage
  | [] => []
  | .plain c :: pieces => passagesAfter (gap ++ [c]) pieces
  | .hit code :: pieces => ⟨gap, code⟩ :: passagesAfter [] pieces

/-- What is behind the passages of a text that starts with a gap. -/
def tailAfter (gap : List Char) : List Piece → List Char
  | [] => gap
  | .plain c :: pieces => tailAfter (gap ++ [c]) pieces
  | .hit _ :: pieces => tailAfter [] pieces

variable {pieces : List Piece} {gap : List Char} {p : Passage} {text : String}

theorem text_passagesAfter (gap : List Char) (pieces : List Piece) :
    gap ++ joined pieces =
      (passagesAfter gap pieces).flatMap Passage.text ++ tailAfter gap pieces := by
  induction pieces generalizing gap with
  | nil => exact List.append_nil gap
  | cons piece pieces ih =>
    cases piece with
    | plain c => rw [joined_plain, passagesAfter, tailAfter, ← ih, List.append_assoc,
        List.singleton_append]
    | hit code => rw [joined_hit, passagesAfter, tailAfter, List.flatMap_cons, List.append_assoc,
        ← ih, List.nil_append, Passage.text, List.append_assoc]

/-- The marks stand around the code of the passages. -/
theorem splitAt_marked (hgap : codeMark ∉ gap) (hpieces : codeMark ∉ joined pieces) :
    splitAt codeMark (gap ++ pieces.flatMap markedPiece) =
      (passagesAfter gap pieces).flatMap (fun p => [p.gap, p.code]) ++ [tailAfter gap pieces] := by
  induction pieces generalizing gap with
  | nil => rw [List.flatMap_nil, List.append_nil, splitAt_of_not_mem hgap]; rfl
  | cons piece pieces ih =>
    cases piece with
    | plain c =>
      obtain ⟨hc, hpieces⟩ := not_or.1 (mt List.mem_cons.2 hpieces)
      have hgap : codeMark ∉ gap ++ [c] := by
        rw [List.mem_append, List.mem_singleton]
        exact not_or.2 ⟨hgap, hc⟩
      rw [passagesAfter, tailAfter, ← ih hgap hpieces, List.append_assoc]
      rfl
    | hit code =>
      rw [joined_hit, List.mem_append] at hpieces
      obtain ⟨hcode, hpieces⟩ := not_or.1 hpieces
      have hmarked : gap ++ (Piece.hit code :: pieces).flatMap markedPiece =
          gap ++ codeMark :: (code ++ codeMark :: ([] ++ pieces.flatMap markedPiece)) := by
        simp [markedPiece]
      rw [hmarked, splitAt_append_cons, splitAt_append_cons, splitAt_of_not_mem hgap,
        splitAt_of_not_mem hcode, ih List.not_mem_nil hpieces]
      rfl

/-- Without the marks, the text is as it was. -/
theorem filter_marked (hpieces : codeMark ∉ joined pieces) :
    (pieces.flatMap markedPiece).filter (· ≠ codeMark) = joined pieces := by
  have hkeeps {s : List Char} (hs : codeMark ∉ s) : s.filter (· ≠ codeMark) = s :=
    List.filter_eq_self.2 fun c hc => decide_eq_true fun heq => hs (heq ▸ hc)
  induction pieces with
  | nil => rfl
  | cons piece pieces ih =>
    cases piece with
    | plain c =>
      obtain ⟨hc, hpieces⟩ := not_or.1 (mt List.mem_cons.2 hpieces)
      rw [List.flatMap_cons, List.filter_append, ih hpieces, markedPiece,
        hkeeps (mt List.mem_singleton.1 hc), joined_plain, List.singleton_append]
    | hit code =>
      rw [joined_hit, List.mem_append] at hpieces
      obtain ⟨hcode, hpieces⟩ := not_or.1 hpieces
      rw [List.flatMap_cons, List.filter_append, ih hpieces, markedPiece, List.filter_append,
        List.filter_cons_of_neg (by simp), hkeeps hcode, joined_hit]
      simp

/-- A hit is the code of a passage, and the text in front of it is in front of the passage's code. -/
theorem passagesAfter_append_hit (gap : List Char) (front : List Piece) (t : List Char)
    (back : List Piece) : passagesAfter gap (front ++ .hit t :: back) =
      passagesAfter gap front ++ ⟨tailAfter gap front, t⟩ :: passagesAfter [] back := by
  induction front generalizing gap with
  | nil => rfl
  | cons piece front ih =>
    cases piece with
    | plain c => exact ih (gap ++ [c])
    | hit code => exact congrArg (⟨gap, code⟩ :: ·) (ih [])

theorem hit_mem_of_mem_passagesAfter (h : p ∈ passagesAfter gap pieces) :
    .hit p.code ∈ pieces := by
  induction pieces generalizing gap with
  | nil => cases h
  | cons piece pieces ih =>
    cases piece with
    | plain c => exact List.mem_cons_of_mem _ (ih h)
    | hit code =>
      rcases List.mem_cons.1 h with rfl | h
      · exact List.mem_cons_self
      · exact List.mem_cons_of_mem _ (ih h)

/-- Of a text without marks, setting lengths and units as code marks the code of passages and leaves
the rest as it is. All code is a length or the name of a unit, and where one of these stands in the
text as words of its own, the code of one passage holds it. -/
theorem highlight_sets_units (h : codeMark ∉ text.toList) :
    (highlight text).toList.filter (· ≠ codeMark) = text.toList ∧
    ∃ passages tail, text.toList = passages.flatMap Passage.text ++ tail ∧
      splitAt codeMark (highlight text).toList =
        passages.flatMap (fun p => [p.gap, p.code]) ++ [tail] ∧
      (∀ p ∈ passages, p.code ≠ [] ∧ IsUnitWord p.code) ∧
      ∀ a u b, text.toList = a ++ (u ++ b) → IsUnitWord u → wordStartsAfter a.getLast? →
        wordEndsBefore b → ∃ before gap d behind,
          passages = before ++ ⟨gap, d ++ u⟩ :: behind ∧
            a = before.flatMap Passage.text ++ (gap ++ d) := by
  have htext := joined_pieces unitWord text.toList
  rw [← htext] at h
  rw [highlight, String.toList_ofList, filter_marked h, htext]
  refine ⟨rfl, passagesAfter [] (unitWord.pieces text.toList),
    tailAfter [] (unitWord.pieces text.toList), ?_, splitAt_marked List.not_mem_nil h, ?_, ?_⟩
  · rw [← text_passagesAfter, List.nil_append, htext]
  · intro p hp
    obtain ⟨front, back, hpieces⟩ := List.append_of_mem (hit_mem_of_mem_passagesAfter hp)
    have hunit := (isUnitWord_of_hit hpieces).1
    exact ⟨hunit.ne_nil, hunit⟩
  · intro a u b hs hu hstart hend
    obtain ⟨front, d, back, hpieces, ha⟩ := exists_hit_of_isUnitWord hs hu hstart hend
    refine ⟨_, _, d, _, by rw [hpieces, passagesAfter_append_hit], ?_⟩
    rw [ha, ← List.append_assoc, ← text_passagesAfter, List.nil_append]

/-- Inside of a longer number, a number behind a point stands as words of its own with its unit. The
code that holds them is the longer number with the unit. -/
theorem highlight_sets_units_point :
    ∃ passages tail,
      splitAt codeMark (highlight "Use 1.5 REM, or vw.").toList =
        passages.flatMap (fun p => [p.gap, p.code]) ++ [tail] ∧
      ∃ before gap d behind, passages = before ++ ⟨gap, d ++ "5 REM".toList⟩ :: behind ∧
        "Use 1.".toList = before.flatMap Passage.text ++ (gap ++ d) := by
  have hnumber : IsUnitWord "5 REM".toList :=
    .inl ⟨⟨['5'], []⟩, [' '], ['R', 'E', 'M'], Numeral.isWritten_iff.2 (by decide),
      List.forall_mem_singleton.2 (by decide), .rem (.inr rfl) (.inr rfl) (.inr rfl), rfl⟩
  have hmark : codeMark ∉ "Use 1.5 REM, or vw.".toList := by decide
  obtain ⟨-, passages, tail, -, hsplit, -, hheld⟩ := highlight_sets_units hmark
  exact ⟨passages, tail, hsplit,
    hheld "Use 1.".toList "5 REM".toList ", or vw.".toList rfl hnumber (by decide) (by decide)⟩

end Reflow.Markdown
