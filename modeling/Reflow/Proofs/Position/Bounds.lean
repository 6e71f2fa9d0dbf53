import Reflow.Proofs.Check.Findings
import Reflow.Proofs.LineScan.Matches

/-!
# Places lie in the source

Every finding that is placed stands in a line of the source, and there at a pixel length or at the
whole line.

* `IsDeclaration`, `propertyPattern_eq_some`: what a declaration is matched by. It ends with a pixel
  length, which is a word of its own also where the match is cut out of its line.
* `exists_unit_of_first?`: so a match is never without a pixel length.
* `Finding.PointsInto`: what it is for a finding to have its place in the source.
* `analyze_pointsInto`: the findings of an analysis, whichever way they are found and placed.
-/

namespace Reflow

open Text

namespace Position

open Length

variable {property : String} {before : Option Char} {s line : List Char} {n : Nat} {e : Extent}

/-! ## Matches of a declaration -/

theorem propertyPattern_eq (property : String) (before : Option Char) (s : List Char) :
    propertyPattern property before s =
      (guard (!before.any fun c => isWord c || c == '-') : Option Unit).bind fun _ =>
        (afterWord? property s).bind fun afterName =>
          (afterLead? [':'] (trimLeft afterName)).bind fun afterColon =>
            (pixelWord.lastFrom? (some ':') 0 (afterColon.takeWhile (· != ';'))).bind fun unit =>
              some (s.length - afterColon.length + unit.stop) := rfl

/-- The parts of a declaration that is found: its name, blanks, a colon, and text without a
semicolon that ends with a pixel length, in front of what comes behind it. -/
structure IsDeclaration (property : String) (name blanks mid u rest : List Char) : Prop where
  name : List.Forall₂ (fun a b => sameLetter a b) property.toList name
  blanks : ∀ c ∈ blanks, isBlank c
  noSemicolon : ';' ∉ mid ++ u
  unit : IsPixelLength u
  starts : wordStartsAfter (mid.getLast?.or (some ':'))
  ends : wordEndsBefore rest

theorem wordEndsBefore_dropWhile (s : List Char) : wordEndsBefore (s.dropWhile (· != ';')) := by
  have hsemicolon : wordStartsAfter (some ';') := by decide
  cases hdrop : s.dropWhile (· != ';') with
  | nil => rfl
  | cons c t =>
    have hc := List.head?_dropWhile_not (· != ';') s
    rw [hdrop] at hc
    have hc : c = ';' := by simpa using hc
    rw [hc]
    exact hsemicolon

/-- A match of the pattern for a declaration goes over the declaration up to its pixel length. -/
theorem propertyPattern_eq_some (h : propertyPattern property before s = some n) :
    (before.any fun c => isWord c || c == '-') = false ∧
      ∃ name blanks mid u rest, IsDeclaration property name blanks mid u rest ∧
        s = (name ++ blanks ++ ':' :: mid) ++ (u ++ rest) ∧
        n = ((name ++ blanks ++ ':' :: mid) ++ u).length := by
  rw [propertyPattern_eq] at h
  obtain ⟨hbefore, hread⟩ := guard_bind_eq_some_iff.1 h
  obtain ⟨afterName, hname, hread⟩ := Option.bind_eq_some_iff.1 hread
  obtain ⟨afterColon, hcolon, hread⟩ := Option.bind_eq_some_iff.1 hread
  obtain ⟨unit, hunit, hread⟩ := Option.bind_eq_some_iff.1 hread
  obtain ⟨name, rfl, hletters⟩ := afterLeadCaseless?_eq_some_iff.1 hname
  obtain ⟨mid, t, hfragment, hstart, hmatch⟩ := Pattern.lastFrom?_eq_some hunit
  obtain ⟨hword, u, r, rfl, hlength, hu, hend⟩ := pixelWord_eq_some_iff.1 hmatch
  have hblanks : afterName.takeWhile isBlank ++ ':' :: afterColon = afterName := by
    rw [afterLead?_eq_some_iff] at hcolon
    rw [← List.singleton_append, ← hcolon]
    exact List.takeWhile_append_dropWhile
  have hrest : afterColon = mid ++ (u ++ (r ++ afterColon.dropWhile (· != ';'))) := by
    have := @List.takeWhile_append_dropWhile _ (· != ';') afterColon
    rw [hfragment] at this
    simpa using this.symm
  have hsemicolon : ';' ∉ mid ++ u := by
    intro hc
    have hc : ';' ∈ afterColon.takeWhile (· != ';') := by
      rw [hfragment, ← List.append_assoc]
      exact List.mem_append_left _ hc
    exact absurd (List.mem_takeWhile_imp hc) (by decide)
  have hends := wordEndsBefore_append hend (wordEndsBefore_dropWhile afterColon)
  refine ⟨by simpa using hbefore, name, afterName.takeWhile isBlank, mid, u, _,
    ⟨hletters, fun c hc => List.mem_takeWhile_imp hc, hsemicolon, hu, hword, hends⟩, ?_, ?_⟩
  · rw [List.append_assoc, List.append_assoc, List.cons_append, ← hrest, hblanks]
  · have hn : (name ++ afterName).length - afterColon.length + unit.stop = n :=
      Option.some.inj hread
    have hlen := congrArg List.length hblanks
    rw [Extent.stop, hstart, ← hlength] at hn
    simp only [List.length_append, List.length_cons] at hlen hn ⊢
    omega

/-- A match, cut out of its line, has a pixel length that is a word of its own: the branch for a
match without one is never taken. -/
theorem exists_unit_of_first? {property : Option String}
    (h : (patternFor property).first? line = some e) :
    ∃ unit, pixelWord.first? (e.cut line) = some unit := by
  obtain ⟨a, s, rfl, hstart, hmatch, -⟩ := Pattern.first?_eq_some_iff.1 h
  obtain ⟨start, length⟩ := e
  dsimp only at hstart hmatch
  subst hstart
  cases hp : property.filter (!·.isEmpty) with
  | some name =>
    rw [patternFor, hp] at hmatch
    obtain ⟨-, name, blanks, mid, u, rest, hdecl, rfl, rfl⟩ := propertyPattern_eq_some hmatch
    rw [← List.append_assoc (name ++ blanks ++ ':' :: mid), cut_append]
    refine Option.ne_none_iff_exists'.1 (Pattern.first?_ne_none (n := u.length) ?_)
    rw [Pattern.getLast?_append_cons]
    exact hdecl.unit.pixelWord_eq_some hdecl.starts
  | none =>
    rw [patternFor, hp] at hmatch
    obtain ⟨-, u, rest, rfl, rfl, hu, -⟩ := pixelWord_eq_some_iff.1 hmatch
    rw [cut_append]
    exact Option.ne_none_iff_exists'.1
      (@Pattern.first?_ne_none _ u.length [] u (hu.pixelWord_eq_some rfl))

/-- The columns of a finding in a line are those of a pixel length. -/
theorem columnsIn?_eq_some {property : Option String}
    (h : columnsIn? (patternFor property) line = some e) :
    ∃ a u b, line = a ++ (u ++ b) ∧ e = ⟨a.length, u.length⟩ ∧ IsPixelLength u := by
  obtain ⟨whole, hwhole, he⟩ := Option.map_eq_some_iff.1 h
  obtain ⟨unit, hunit⟩ := exists_unit_of_first? hwhole
  rw [hunit] at he
  obtain ⟨x, u, y, hcut, rfl, hu⟩ := first?_pixelWord_eq_some hunit
  obtain ⟨a, b, hline, ha⟩ := Pattern.exists_append_of_first? hwhole
  refine ⟨a ++ x, u, y ++ b, ?_, ?_, hu⟩
  · rw [hcut] at hline
    simpa using hline
  · rw [← he, List.length_append, ha]

/-! ## The lines that are searched -/

variable {rows : List (List Char)} {pattern : Pattern} {index count : Nat}

theorem anchor_lt (h : rows ≠ []) (selector : String) : anchor rows selector < rows.length := by
  have hpos := List.length_pos_iff.2 h
  unfold anchor
  split
  · exact hpos
  · cases hf : rows.findIdx? (contains selector.toList) with
    | none => exact hpos
    | some i => exact (List.findIdx?_eq_some_iff_findIdx_eq.1 hf).1

theorem blockEnd_lt (h : index < rows.length) : blockEnd rows index < rows.length := by
  unfold blockEnd
  split
  · next i hf =>
    have hi := (List.findIdx?_eq_some_iff_findIdx_eq.1 hf).1
    rw [List.length_drop] at hi
    omega
  · omega

/-- A search stops at the first line where the pattern has columns. -/
theorem searchFrom_eq_some {found : Nat}
    (h : searchFrom rows pattern index count = some (found, e)) :
    index ≤ found ∧ found < index + count ∧ columnsIn? pattern (rows.getD found []) = some e ∧
      ∀ i, index ≤ i → i < found → columnsIn? pattern (rows.getD i []) = none := by
  induction count generalizing index with
  | zero => cases h
  | succ count ih =>
    rw [searchFrom] at h
    split at h
    · next extent hc =>
      cases h
      refine ⟨Nat.le_refl _, by omega, hc, ?_⟩
      intro i hi hlt
      omega
    · next hc =>
      obtain ⟨hle, hlt, hfound, hnone⟩ := ih h
      refine ⟨by omega, by omega, hfound, ?_⟩
      intro i hi hlt
      rcases Nat.eq_or_lt_of_le hi with rfl | hi
      · exact hc
      · exact hnone i hi hlt

end Position

/-! ## Places -/

open Position

/-- A finding has its place in the source: in one of its lines, and there at a pixel length or at
the whole line. An empty line counts as one column. -/
def Finding.PointsInto (f : Finding) (source : String) : Prop :=
  let rows := lines source.toList
  ∃ line start stop : Nat,
    f.line = some (line : Int) ∧ f.span = some ⟨line, start, line, stop⟩ ∧
    1 ≤ line ∧ line ≤ rows.length ∧
    let row := rows.getD (line - 1) []
    start < stop ∧ stop ≤ max 1 row.length ∧
    (Length.IsPixelLength (Extent.cut ⟨start, stop - start⟩ row) ∨
      start = 0 ∧ stop = max 1 row.length)

namespace Finding

variable {f : Finding} {source : String} {index : Nat} {a u b : List Char}

/-- A finding placed at a pixel length of a line. -/
theorem PointsInto.of_unit (hindex : index < (lines source.toList).length)
    (hrow : (lines source.toList).getD index [] = a ++ (u ++ b)) (hu : Length.IsPixelLength u) :
    (f.placedAt (index + 1) (lineSpan index a.length (a.length + u.length))).PointsInto source := by
  have hpos := hu.length_pos
  refine ⟨index + 1, a.length, a.length + u.length, rfl, rfl, by omega, by omega, by omega, ?_, ?_⟩
  · rw [Nat.add_sub_cancel, hrow, List.length_append, List.length_append]
    omega
  · left
    rw [Nat.add_sub_cancel, Nat.add_sub_cancel_left, hrow, cut_append]
    exact hu

theorem pointsInto_place (f : Finding) (source : String) :
    (f.place (lines source.toList)).PointsInto source := by
  have hne : lines source.toList ≠ [] := splitAt_ne_nil _ _
  have hanchor := anchor_lt hne f.selector
  unfold place locate
  dsimp only
  split
  · next index e hsearch =>
    obtain ⟨-, hlt, hcolumns, -⟩ := searchFrom_eq_some hsearch
    have hend := blockEnd_lt hanchor
    obtain ⟨a, u, b, hrow, rfl, hu⟩ := columnsIn?_eq_some hcolumns
    exact .of_unit (by omega) hrow hu
  · refine ⟨anchor (lines source.toList) f.selector + 1, 0, _, rfl, rfl, by omega, by omega, ?_,
      ?_, .inr ⟨rfl, ?_⟩⟩
    · omega
    · rw [Nat.add_sub_cancel]
    · rw [Nat.add_sub_cancel]

end Finding

namespace LineScan

open Length

variable {s : Settings} {source : String} {f : Finding}

theorem pointsInto_of_mem_scan (h : f ∈ scan s source) : f.PointsInto source := by
  obtain ⟨index, row, property, kind, _, e, unit, hrow, -, he, -, hunit, rfl⟩ :=
    exists_of_mem_scan h
  obtain ⟨a, b, hline, ha⟩ := Pattern.exists_append_of_first? he
  obtain ⟨x, u, y, hcut, rfl, hu⟩ := first?_pixelUnit_eq_some hunit
  obtain ⟨hindex, hget⟩ := List.getElem?_eq_some_iff.1 hrow
  have hsplit : (lines source.toList).getD index [] = (a ++ x) ++ (u ++ (y ++ b)) := by
    rw [List.getD_eq_getElem?_getD, hrow, Option.getD_some, hline, hcut]
    simp
  have := Finding.PointsInto.of_unit (f := Finding.about kind "" property
    (String.ofList (e.cut row))) hindex hsplit hu
  rw [List.length_append, ha] at this
  exact this

end LineScan

/-- The findings of an analysis point into the source, whether it is read as rules or line by line.
So do any other findings that are placed in it, and no match of a pattern for places is without a
pixel length. -/
theorem analyze_pointsInto (source : String) :
    (∀ language s checks result, analyze source language s checks = .ok result →
      ∀ f ∈ result.findings, f.PointsInto source) ∧
    (∀ found, ∀ f ∈ placeAll found source, f.PointsInto source) ∧
    (∀ property line e, (patternFor property).first? line = some e →
      ∃ unit, Length.pixelWord.first? (e.cut line) = some unit) := by
  have hplaced : ∀ found, ∀ f ∈ placeAll found source, f.PointsInto source := by
    intro found f hf
    obtain ⟨g, -, rfl⟩ := List.mem_map.1 hf
    exact g.pointsInto_place source
  refine ⟨?_, hplaced, fun property line e h => exists_unit_of_first? h⟩
  intro language s checks result h f hf
  obtain ⟨dialect, all, -, hall, hfirst⟩ := Analysis.exists_of_analyze h
  have hf := hfirst.subset hf
  unfold Analysis.findAll at hall
  split at hall
  · dsimp only at hall
    split at hall
    · cases hall
      exact hplaced _ f hf
    · cases hall
  · cases hall
    exact LineScan.pointsInto_of_mem_scan hf

theorem analyze_pointsInto_width :
    let source := "a \x7bwidth: 500px\x7d"
    (∃ result, analyze source "css" .standard Check.all = .ok result ∧
      ∃ f ∈ result.findings, f.PointsInto source) ∧
    (∃ f ∈ placeAll [.about .fixedWidth "a" "width" "500px"] source, f.PointsInto source) ∧
    ∃ e, (patternFor (some "width")).first? source.toList = some e ∧
      ∃ unit, Length.pixelWord.first? (e.cut source.toList) = some unit := by
  intro source
  obtain ⟨hanalyze, hplace, hmatch⟩ := analyze_pointsInto source
  refine ⟨?_, ?_, ⟨3, 12⟩, ?_⟩
  · have hfindings : (match analyze source "css" .standard Check.all with
        | .ok result => result.findings
        | .error _ => []) ≠ [] := by
      decide +kernel
    cases h : analyze source "css" .standard Check.all with
    | error e =>
      rw [h] at hfindings
      exact absurd rfl hfindings
    | ok result =>
      rw [h] at hfindings
      obtain ⟨f, hf⟩ := List.exists_mem_of_ne_nil _ hfindings
      exact ⟨result, rfl, f, hf, hanalyze _ _ _ _ h f hf⟩
  · let f := Finding.about .fixedWidth "a" "width" "500px"
    have hf : f.place (lines source.toList) ∈ placeAll [f] source := List.mem_singleton_self _
    exact ⟨_, hf, hplace [f] _ hf⟩
  · have hfirst : (patternFor (some "width")).first? source.toList = some ⟨3, 12⟩ := by
      decide +kernel
    exact ⟨hfirst, hmatch _ _ _ hfirst⟩

end Reflow
