import Reflow.Proofs.Position.Bounds
import Reflow.Proofs.Stylesheet.Layout

/-!
# Places in the rows of declarations

Where a declaration is found in the rows of a laid out stylesheet: in its own row and in no row of
another name, also of a longer one, and there at the first pixel length of its value.

* `first?_propertyPattern_eq_none`: no declaration is found in a row without a pixel length.
* `name_of_first?`: a row in which a declaration is found is a row of its name.
* `columnsIn?_declarationRow`: the columns in its own row.
-/

namespace Reflow.Position

open Text Length Stylesheet

variable {property : String} {name value line : List Char} {p : String × String} {e : Extent}
  {n : Nat}

/-- No declaration is found in a row without a pixel length that is a word of its own. -/
theorem first?_propertyPattern_eq_none (h : pixelWord.first? line = none) :
    (propertyPattern property).first? line = none := by
  cases hfirst : (propertyPattern property).first? line with
  | none => rfl
  | some e =>
    obtain ⟨a, s, rfl, -, hmatch, -⟩ := Pattern.first?_eq_some_iff.1 hfirst
    obtain ⟨-, name, blanks, mid, u, rest, hdecl, rfl, -⟩ := propertyPattern_eq_some hmatch
    have hunit : pixelWord (mid.getLast?.or (some ':')) (u ++ rest) = some u.length :=
      pixelWord_eq_some_iff.2 ⟨hdecl.starts, u, rest, rfl, rfl, hdecl.unit, hdecl.ends⟩
    rw [← Pattern.getLast?_append_cons (a ++ (name ++ blanks))] at hunit
    rw [← List.append_assoc, ← List.append_assoc a] at h
    exact absurd h (Pattern.first?_ne_none hunit)

theorem eq_of_forall₂_sameLetter {name word : List Char} (hname : ∀ c ∈ name, isNameCharacter c)
    (hword : ∀ c ∈ word, isNameCharacter c ∨ c = ' ')
    (h : List.Forall₂ (fun a b => sameLetter a b) name word) : name = word := by
  induction h with
  | nil => rfl
  | cons hab _ ih =>
    obtain ⟨ha, hname⟩ := List.forall_mem_cons.1 hname
    obtain ⟨hb, hword⟩ := List.forall_mem_cons.1 hword
    rw [eq_of_sameLetter ha hb hab, ih hname hword]

/-- In an indented name only the letters of a property are spelled like it. -/
theorem eq_of_indented_letters {letters word : List Char}
    (hletters : ∀ c ∈ letters, isNameCharacter c) (hname : ∀ c ∈ name, isNameCharacter c)
    (hword : ∀ c ∈ word, c ∈ ' ' :: ' ' :: name)
    (h : List.Forall₂ (fun a b => sameLetter a b) letters word) : letters = word := by
  refine eq_of_forall₂_sameLetter hletters (fun c hc => ?_) h
  have hmem := hword c hc
  simp only [List.mem_cons] at hmem
  rcases hmem with hc | hc | hc
  · exact .inr hc
  · exact .inr hc
  · exact .inl (hname c hc)

/-- An indented name has no blanks at its end. -/
theorem eq_nil_of_indented {lead blanks word : List Char} (hne : word ≠ []) (hspace : ' ' ∉ word)
    (hname : ∀ c ∈ name, isNameCharacter c) (hblanks : ∀ c ∈ blanks, isBlank c)
    (h : lead ++ (word ++ blanks) = ' ' :: ' ' :: name) : blanks = [] := by
  rcases List.eq_nil_or_concat' blanks with rfl | ⟨blanks, b, rfl⟩
  · rfl
  rcases List.eq_nil_or_concat' name with rfl | ⟨name, c, rfl⟩
  · -- All characters of the word would be spaces.
    obtain ⟨w, word, rfl⟩ := List.exists_cons_of_ne_nil hne
    have hw : w ∈ [' ', ' '] := h ▸ by simp
    have hw : w = ' ' := by simpa using hw
    exact absurd (hw ▸ List.mem_cons_self) hspace
  · -- The last character would be a blank and a character of a name.
    have hlast := congrArg List.getLast? h
    have hbc : b = c := by simpa [List.getLast?_append, List.getLast?_cons] using hlast
    have hc := not_isBlank_of_isNameCharacter (hname c (by simp))
    rw [← hbc, hblanks b (by simp)] at hc
    cases hc

/-- A name at the end of an indented name, with no character of a name in front of it, is all of
it. -/
theorem eq_of_indented {lead word : List Char} (hspace : ' ' ∉ word)
    (hname : ∀ c ∈ name, isNameCharacter c)
    (hlead : (lead.getLast?.any fun c => isWord c || c == '-') = false)
    (h : lead ++ word = ' ' :: ' ' :: name) : lead = [' ', ' '] ∧ word = name := by
  match lead with
  | [] =>
    rw [List.nil_append] at h
    exact absurd (h ▸ List.mem_cons_self) hspace
  | [a] =>
    simp only [List.cons_append, List.nil_append, List.cons.injEq] at h
    exact absurd (h.2 ▸ List.mem_cons_self) hspace
  | a :: b :: lead =>
    simp only [List.cons_append, List.cons.injEq] at h
    obtain ⟨rfl, rfl, h⟩ := h
    rcases List.eq_nil_or_concat' lead with rfl | ⟨lead, c, rfl⟩
    · exact ⟨rfl, h⟩
    · have hc := isWord_or_eq_of_isNameCharacter (hname c (h ▸ by simp))
      have hlast : (' ' :: ' ' :: (lead ++ [c])).getLast? = some c :=
        List.getLast?_concat (l := ' ' :: ' ' :: lead)
      rw [hlast, Option.any_some, hc] at hlead
      cases hlead

/-- A declaration is found in the row of another only if that one has its name, and then all of
it. -/
theorem name_of_first? (hproperty : property ≠ "")
    (hletters : ∀ c ∈ property.toList, isNameCharacter c)
    (hname : ∀ c ∈ p.1.toList, isNameCharacter c) (hvalue : ':' ∉ p.2.toList)
    (h : (propertyPattern property).first? (declarationRow p) = some e) :
    property = p.1 ∧ ∃ mid u rest, IsDeclaration property p.1.toList [] mid u rest ∧
      ' ' :: (p.2.toList ++ [';']) = mid ++ (u ++ rest) ∧
      e = ⟨2, (p.1.toList ++ ':' :: (mid ++ u)).length⟩ := by
  obtain ⟨lead, s, hs, hstart, hmatch, -⟩ := Pattern.first?_eq_some_iff.1 h
  obtain ⟨hbefore, word, blanks, mid, u, rest, hdecl, rfl, hlength⟩ :=
    propertyPattern_eq_some hmatch
  have hrow : declarationRow p = (lead ++ (word ++ blanks)) ++ ':' :: (mid ++ (u ++ rest)) := by
    rw [hs]
    simp
  obtain ⟨hnames, hvalues⟩ := eq_of_declarationRow hname hvalue hrow
  have hword : ∀ c ∈ word, c ∈ ' ' :: ' ' :: p.1.toList := fun c hc =>
    hnames ▸ List.mem_append_right _ (List.mem_append_left _ hc)
  have hproperty' : property.toList ≠ [] := fun h =>
    hproperty (String.toList_inj.1 (h.trans String.toList_empty.symm))
  obtain rfl := eq_of_indented_letters hletters hname hword hdecl.name
  have hspace : ' ' ∉ property.toList := fun hc => absurd (hletters _ hc) (by decide)
  obtain rfl := eq_nil_of_indented hproperty' hspace hname hdecl.blanks hnames
  rw [List.append_nil] at hnames
  obtain ⟨rfl, hsame⟩ := eq_of_indented hspace hname hbefore hnames
  rw [hsame] at hdecl
  refine ⟨String.toList_inj.1 hsame, mid, u, rest, hdecl, hvalues.symm, ?_⟩
  have hlength : e.length = (p.1.toList ++ ':' :: (mid ++ u)).length := by
    rw [hlength, hsame]
    simp
  rw [← hlength]
  exact congrArg (Extent.mk · e.length) hstart

/-- A declaration with a pixel length is found behind a character that is of no name. -/
theorem propertyPattern_ne_none {before : Option Char} {a b rest : List Char}
    (hbefore : (before.any fun c => isWord c || c == '-') = false) (hvalue : ';' ∉ a ++ b)
    (hmatch : pixelWord (a.getLast?.or (some ':')) b = some n) :
    propertyPattern property before (property.toList ++ ':' :: (a ++ b ++ ';' :: rest)) ≠ none := by
  have hname (s : List Char) : afterWord? property (property.toList ++ s) = some s :=
    afterLeadCaseless?_eq_some_iff.2 ⟨_, rfl, List.forall₂_same.2 fun c _ => beq_self_eq_true _⟩
  have hcolon (s : List Char) : afterLead? [':'] (trimLeft (':' :: s)) = some s := by
    rw [trimLeft, List.dropWhile_cons_of_neg (by decide)]
    exact afterLead?_append [':'] s
  have htake : (a ++ b ++ ';' :: rest).takeWhile (· != ';') = a ++ b := by
    refine takeWhile_run (fun c hc => ?_) ?_
    · have hne : c ≠ ';' := fun h => hvalue (h ▸ hc)
      simpa using hne
    · rintro c ⟨⟩
      decide
  obtain ⟨unit, hunit⟩ : ∃ unit, pixelWord.lastFrom? (some ':') 0 (a ++ b) = some unit :=
    Option.ne_none_iff_exists'.1 (Pattern.lastFrom?_ne_none hmatch)
  refine Option.ne_none_iff_exists'.2 ⟨(property.toList ++ ':' :: (a ++ b ++ ';' :: rest)).length -
    (a ++ b ++ ';' :: rest).length + unit.stop, ?_⟩
  rw [propertyPattern_eq, guard_bind_eq_some_iff, hname, Option.bind_some, hcolon,
    Option.bind_some, htake, hunit, Option.bind_some]
  exact ⟨by simpa using hbefore, rfl⟩

/-- A match in the row of a declaration ends with a pixel length of the value. -/
theorem exists_unit_of_value {name blanks mid u rest : List Char}
    (hdecl : IsDeclaration property name blanks mid u rest)
    (h : ' ' :: (value ++ [';']) = mid ++ (u ++ rest)) :
    ∃ a t, mid = ' ' :: a ∧ rest = t ++ [';'] ∧ value = a ++ (u ++ t) ∧
      pixelWord a.getLast? (u ++ t) = some u.length := by
  cases mid with
  | nil =>
    -- A pixel length starts with a digit and not with the space.
    obtain ⟨c, v, rfl, hc⟩ := hdecl.unit.exists_cons
    simp only [List.nil_append, List.cons_append, List.cons.injEq] at h
    rw [← h.1] at hc
    exact absurd hc (by decide)
  | cons c a =>
    simp only [List.cons_append, List.cons.injEq] at h
    obtain ⟨rfl, h⟩ := h
    have hprefix : a ++ u <+: value ++ [';'] := ⟨rest, by rw [h, List.append_assoc]⟩
    rcases List.prefix_concat_iff.1 hprefix with hall | ⟨t, rfl⟩
    · have hmem : ';' ∈ a ++ u := by
        rw [hall]
        exact List.mem_append_right _ (List.mem_singleton_self _)
      exact absurd (List.mem_cons_of_mem _ hmem) hdecl.noSemicolon
    · rw [List.append_assoc, List.append_assoc, List.append_cancel_left_eq,
        List.append_cancel_left_eq] at h
      subst h
      have hstart := hdecl.starts
      rw [Pattern.getLast?_cons_or, wordStartsAfter_or (by decide)] at hstart
      have hend := wordEndsBefore_of_append hdecl.ends
      exact ⟨a, t, rfl, rfl, List.append_assoc _ _ _,
        pixelWord_eq_some_iff.2 ⟨hstart, u, t, rfl, rfl, hdecl.unit, hend⟩⟩

/-- A declaration with a pixel length is found in its own row: it stands behind the two spaces. -/
theorem exists_first?_declarationRow (property value : String) (hsemicolon : ';' ∉ value.toList)
    (h : pixelWord.first? value.toList = some e) :
    ∃ whole, (propertyPattern property).first? (declarationRow (property, value)) = some whole := by
  obtain ⟨a, b, hvalue, -, hmatch, -⟩ := Pattern.first?_eq_some_iff.1 h
  have hspace : pixelWord ((' ' :: a).getLast?.or (some ':')) b = some e.length := by
    rw [Pattern.getLast?_cons_or, pixelWord_congr (wordStartsAfter_or (by decide)), hmatch]
  have hmark : ';' ∉ ' ' :: a ++ b := by
    rw [List.cons_append, ← hvalue]
    simpa using hsemicolon
  have hfound : propertyPattern property (some ' ')
      (property.toList ++ ':' :: (' ' :: a ++ b ++ [';'])) ≠ none :=
    propertyPattern_ne_none (by decide) hmark hspace
  have hrow : declarationRow (property, value) =
      [' ', ' '] ++ (property.toList ++ ':' :: (' ' :: a ++ b ++ [';'])) := by
    rw [declarationRow, hvalue]
    simp
  obtain ⟨n, hn⟩ := Option.ne_none_iff_exists'.1 hfound
  rw [hrow]
  exact Option.ne_none_iff_exists'.1 (Pattern.first?_ne_none (a := [' ', ' ']) hn)

/-- A declaration with a pixel length has the columns of its first one in its own row. -/
theorem columnsIn?_declarationRow {property value : String} (hne : property ≠ "")
    (hname : ∀ c ∈ property.toList, isNameCharacter c)
    (hcolon : ':' ∉ value.toList) (hsemicolon : ';' ∉ value.toList)
    (h : pixelWord.first? value.toList = some e) :
    columnsIn? (propertyPattern property) (declarationRow (property, value)) =
      some ⟨2 + (property.toList.length + 2 + e.start), e.length⟩ := by
  obtain ⟨whole, hwhole⟩ := exists_first?_declarationRow property value hsemicolon h
  obtain ⟨-, mid, u, rest, hdecl, hsplit, rfl⟩ := name_of_first? hne hname hname hcolon hwhole
  obtain ⟨a, t, rfl, rfl, hvalue, hunit⟩ := exists_unit_of_value hdecl hsplit
  have hshort : pixelWord.first? (a ++ u) = some e := by
    rw [hvalue] at h
    exact first?_pixelWord_of_append h hunit
  have hrow : declarationRow (property, value) =
      [' ', ' '] ++ ((property.toList ++ ':' :: (' ' :: a ++ u)) ++ (t ++ [';'])) := by
    rw [declarationRow, hvalue]
    simp
  have hcut : Extent.cut ⟨2, (property.toList ++ ':' :: (' ' :: a ++ u)).length⟩
      (declarationRow (property, value)) = (property.toList ++ [':', ' ']) ++ (a ++ u) := by
    rw [hrow]
    exact (cut_append [' ', ' '] _ _).trans (by simp)
  have hlead : ∀ c ∈ property.toList ++ [':', ' '], isDigit c = false := by
    intro c hc
    rcases List.mem_append.1 hc with hc | hc
    · exact not_isDigit_of_isNameCharacter (hname c hc)
    · simp only [List.mem_cons, List.not_mem_nil, or_false] at hc
      rcases hc with rfl | rfl <;> decide
  have hfirst : pixelWord.first? ((property.toList ++ [':', ' ']) ++ (a ++ u)) =
      some ⟨(property.toList ++ [':', ' ']).length + e.start, e.length⟩ := by
    have hspace : wordStartsAfter (some ' ') := by decide
    refine first?_pixelWord_append hlead ?_ hshort
    rw [List.getLast?_append]
    exact hspace
  rw [columnsIn?, hwhole, Option.map_some, hcut, hfirst]
  simp

end Reflow.Position
