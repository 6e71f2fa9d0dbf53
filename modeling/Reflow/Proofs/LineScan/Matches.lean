import Reflow.LineScan
import Reflow.Proofs.Length.Words
import Reflow.Proofs.Text.Occurrence

/-!
# Matches of a scan

What a scan of lines matches, said by the texts it matches: the letters of the property, a colon,
blanks, and a number of pixels without a blank in front of the unit.

* `declarationPattern_eq_some`: a match.
* `declaredPixels?_eq_some`: the number that is read from the match once more.
* `exists_cut_of_first?`: the first match in a line.
* `exists_of_mem_scan`: what a scan finds.
-/

namespace Reflow.LineScan

open Text Length

variable {property source : String} {before : Option Char} {line : List Char} {e : Extent} {n : Nat}
  {kind : Kind} {measure : Measure} {s : Settings} {f : Finding}

theorem cases_of_mem_measures (h : (property, kind, measure) ∈ measures) :
    property = "width" ∧ kind = .fixedWidth ∧ measure = .width ∨
      property = "height" ∧ kind = .fixedHeight ∧ measure = .height := by
  simpa only [measures, List.mem_cons, List.not_mem_nil, or_false, Prod.mk.injEq] using h

theorem property_ne (h : (property, kind, measure) ∈ measures) : property ≠ "" := by
  rcases cases_of_mem_measures h with ⟨rfl, -, -⟩ | ⟨rfl, -, -⟩ <;> decide

theorem isNameCharacter_of_mem_measures (h : (property, kind, measure) ∈ measures) :
    ∀ c ∈ property.toList, isNameCharacter c := by
  have hletters : ∀ measure ∈ measures, measure.1.toList.all isNameCharacter := by decide
  exact List.all_eq_true.1 (hletters _ h)

theorem afterWord?_colon_eq_some_iff {rest : List Char} :
    afterWord? (property ++ ":") line = some rest ↔
      ∃ word, List.Forall₂ (fun a b => sameLetter a b) property.toList word ∧
        line = word ++ ':' :: rest := by
  have hcolon : ":".toList = [':'] := rfl
  rw [afterWord?, String.toList_append, afterLeadCaseless?_append, hcolon,
    Option.bind_eq_some_iff]
  constructor
  · rintro ⟨behind, hword, hmark⟩
    obtain ⟨word, rfl, hletters⟩ := afterLeadCaseless?_eq_some_iff.1 hword
    obtain ⟨mark, rfl, hletter⟩ := afterLeadCaseless?_eq_some_iff.1 hmark
    obtain ⟨c, _, hc, hnil, rfl⟩ := List.forall₂_cons_left_iff.1 hletter
    cases List.forall₂_nil_left_iff.1 hnil
    exact ⟨word, hletters, by rw [sameLetter_colon_iff.1 hc]; rfl⟩
  · rintro ⟨word, hletters, rfl⟩
    exact ⟨':' :: rest, afterLeadCaseless?_eq_some_iff.2 ⟨word, rfl, hletters⟩, by
      simp [afterLeadCaseless?, sameLetter_colon_iff]⟩

/-- A match goes over the letters of the property, a colon, blanks and a number of pixels. -/
theorem declarationPattern_eq_some (h : declarationPattern property before line = some n) :
    ∃ word blanks number u rest, List.Forall₂ (fun a b => sameLetter a b) property.toList word ∧
      (∀ c ∈ blanks, isBlank c) ∧ IsPixelNumber number u ∧
      line = (word ++ ':' :: (blanks ++ u)) ++ rest ∧
      n = (word ++ ':' :: (blanks ++ u)).length := by
  obtain ⟨_, hread, hn⟩ := patternOf_eq_some_iff.1 h
  obtain ⟨value, hword, hread⟩ := Option.bind_eq_some_iff.1 hread
  obtain ⟨⟨number, rest⟩, hpixels, hrest⟩ := Option.bind_eq_some_iff.1 hread
  cases hrest
  obtain ⟨word, hletters, rfl⟩ := afterWord?_colon_eq_some_iff.1 hword
  obtain ⟨u, hu, hvalue⟩ := readPixels?_eq_some_iff.1 hpixels
  have hblanks : value.takeWhile isBlank ++ (u ++ rest) = value := by
    rw [← hvalue]
    exact List.takeWhile_append_dropWhile
  have hline : word ++ ':' :: value =
      (word ++ ':' :: (value.takeWhile isBlank ++ u)) ++ rest := by
    rw [List.append_assoc, List.cons_append, List.append_assoc, hblanks]
  refine ⟨word, value.takeWhile isBlank, number, u, rest, hletters,
    fun c hc => List.mem_takeWhile_imp hc, hu, hline, ?_⟩
  rw [← hn, hline, List.length_append, Nat.add_sub_cancel]

/-- The number in what a match has cut out. -/
theorem declaredPixels?_eq_some {word blanks u : List Char} {number : Numeral}
    (hletters : List.Forall₂ (fun a b => sameLetter a b) property.toList word)
    (hblanks : ∀ c ∈ blanks, isBlank c) (hu : IsPixelNumber number u) :
    declaredPixels? property (word ++ ':' :: (blanks ++ u)) = some number.toBinary64 := by
  have hword : afterWord? (property ++ ":") (word ++ ':' :: (blanks ++ u)) = some (blanks ++ u) :=
    afterWord?_colon_eq_some_iff.2 ⟨word, hletters, rfl⟩
  have hstop : ∀ c ∈ u.head?, isBlank c = false := by
    obtain ⟨c, v, rfl, hc⟩ := hu.isPixelLength.exists_cons
    rintro d ⟨⟩
    rw [← Bool.not_eq_true]
    intro hd
    rw [not_isDigit_of_isBlank hd] at hc
    cases hc
  have hpixels : readPixels? (trimLeft (blanks ++ u)) = some (number, []) := by
    rw [trimLeft, dropWhile_run hblanks hstop]
    exact readPixels?_eq_some_iff.2 ⟨u, hu, (List.append_nil u).symm⟩
  exact Option.bind_eq_some_iff.2 ⟨_, hword, Option.bind_eq_some_iff.2 ⟨_, hpixels, rfl⟩⟩

/-- The first match in a line, and what it cuts out. -/
theorem exists_cut_of_first? (h : (declarationPattern property).first? line = some e) :
    ∃ a word blanks number u b,
      List.Forall₂ (fun a b => sameLetter a b) property.toList word ∧ (∀ c ∈ blanks, isBlank c) ∧
      IsPixelNumber number u ∧ line = a ++ (word ++ ':' :: (blanks ++ u) ++ b) ∧
      e.cut line = word ++ ':' :: (blanks ++ u) := by
  obtain ⟨start, length⟩ := e
  obtain ⟨a, t, rfl, hstart, hmatch, -⟩ := Pattern.first?_eq_some_iff.1 h
  dsimp only at hstart
  subst hstart
  obtain ⟨word, blanks, number, u, b, hletters, hblanks, hu, rfl, rfl⟩ :=
    declarationPattern_eq_some hmatch
  exact ⟨a, word, blanks, number, u, b, hletters, hblanks, hu, rfl, cut_append _ _ _⟩

theorem colon_mem_of_first? (h : (declarationPattern property).first? line = some e) :
    ':' ∈ line := by
  obtain ⟨a, word, blanks, number, u, b, -, -, -, rfl, -⟩ := exists_cut_of_first? h
  simp

/-- Letters are spelled without digits. -/
theorem not_isDigit_of_letters {letters word : List Char}
    (hletters : ∀ c ∈ letters, isNameCharacter c)
    (h : List.Forall₂ (fun a b => sameLetter a b) letters word) :
    ∀ c ∈ word, isDigit c = false := by
  induction h with
  | nil => simp
  | cons hab _ ih =>
    obtain ⟨ha, hletters⟩ := List.forall_mem_cons.1 hletters
    exact List.forall_mem_cons.2 ⟨not_isDigit_of_sameLetter ha hab, ih hletters⟩

/-- Whatever a scan finds is about a match in one of the lines, with a measure worth a finding, and
is placed at the number of pixels in the match. -/
theorem exists_of_mem_scan (h : f ∈ scan s source) :
    ∃ (index : Nat) (line : List Char) (property : String) (kind : Kind) (measure : Measure)
      (e unit : Extent),
      (lines source.toList)[index]? = some line ∧ (property, kind, measure) ∈ measures ∧
      (declarationPattern property).first? line = some e ∧
      s.reports measure (declaredPixels? property (e.cut line)) ∧
      pixelUnit.first? (e.cut line) = some unit ∧
      f = (Finding.about kind "" property (String.ofList (e.cut line))).placedAt (index + 1)
        (Position.lineSpan index (e.start + unit.start) (e.start + unit.start + unit.length)) := by
  obtain ⟨⟨line, index⟩, hline, h⟩ := List.mem_flatMap.1 h
  obtain ⟨⟨property, kind, measure⟩, hmeasure, h⟩ := List.mem_filterMap.1 h
  obtain ⟨e, he, h⟩ := Option.bind_eq_some_iff.1 h
  obtain ⟨hreports, h⟩ := guard_bind_eq_some_iff.1 h
  obtain ⟨unit, hunit, h⟩ := Option.bind_eq_some_iff.1 h
  exact ⟨index, line, property, kind, measure, e, unit, List.mk_mem_zipIdx_iff_getElem?.1 hline,
    hmeasure, he, hreports, hunit, (Option.some.inj h).symm⟩

end Reflow.LineScan
