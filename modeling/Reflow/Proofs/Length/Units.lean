import Reflow.Proofs.Length.Pixels
import Reflow.Proofs.Text.Occurrence
import Reflow.Proofs.Text.Pieces

/-!
# Lengths with units

What the pattern for highlights matches, said by the texts it matches: the name of a unit, or a
number, blanks and the name of a unit.

* `IsUnitName`, `IsUnitLength`, `IsUnitWord`: these texts.
* `unitWord_eq_some_iff`: a match is such a text between the ends of a word.
* `IsUnitWord.endsUnit`: the last letter of a unit stands at the end of such a text and nowhere else
  in it. So two of them that start at one place are the same (`EndsUnit.unique`), and the rest of one
  is told by that letter as well (`EndsUnit.of_append`).
* `exists_hit_of_isUnitWord`: of the pieces of a text, a hit holds each such word as a whole.
-/

namespace Reflow

open Text

variable {s t rest rest' u v a b : List Char} {before : Option Char} {n : Nat} {c : Char}

namespace Length

/-! ## Names of units -/

/-- The name of a unit in any case. -/
inductive IsUnitName : List Char → Prop
  | px {p x : Char} (hp : p = 'p' ∨ p = 'P') (hx : x = 'x' ∨ x = 'X') : IsUnitName [p, x]
  | rem {r e m : Char} (hr : r = 'r' ∨ r = 'R') (he : e = 'e' ∨ e = 'E')
      (hm : m = 'm' ∨ m = 'M') : IsUnitName [r, e, m]
  | vw {v w : Char} (hv : v = 'v' ∨ v = 'V') (hw : w = 'w' ∨ w = 'W') : IsUnitName [v, w]

/-- The letters that a name of a unit ends with. -/
def isLastLetter (c : Char) : Bool := ['x', 'X', 'm', 'M', 'w', 'W'].contains c

/-- A text whose last character is the last letter of a unit, and no other one is. -/
def EndsUnit (u : List Char) : Prop :=
  ∃ v z, u = v ++ [z] ∧ isLastLetter z ∧ ∀ c ∈ v, isLastLetter c = false

theorem IsUnitName.endsUnit (h : IsUnitName u) : EndsUnit u := by
  cases h with
  | @px p x hp hx =>
    refine ⟨[p], x, rfl, ?_, List.forall_mem_singleton.2 ?_⟩
    · rcases hx with rfl | rfl <;> rfl
    · rcases hp with rfl | rfl <;> rfl
  | @rem r e m hr he hm =>
    refine ⟨[r, e], m, rfl, ?_, List.forall_mem_cons.2 ⟨?_, List.forall_mem_singleton.2 ?_⟩⟩
    · rcases hm with rfl | rfl <;> rfl
    · rcases hr with rfl | rfl <;> rfl
    · rcases he with rfl | rfl <;> rfl
  | @vw v w hv hw =>
    refine ⟨[v], w, rfl, ?_, List.forall_mem_singleton.2 ?_⟩
    · rcases hw with rfl | rfl <;> rfl
    · rcases hv with rfl | rfl <;> rfl

/-- Such a text does not go on behind the last letter of a unit. -/
theorem EndsUnit.length_le (hu : EndsUnit u) (hv : EndsUnit v) (h : u ++ rest = v ++ rest') :
    u.length ≤ v.length := by
  obtain ⟨w, y, rfl, -, hw⟩ := hu
  obtain ⟨w', z, rfl, hz, -⟩ := hv
  by_contra hlt
  have hprefix : w' ++ [z] <+: w := by
    refine List.prefix_of_prefix_length_le ⟨rest', h.symm⟩ ⟨[y] ++ rest, by simp⟩ ?_
    simp only [List.length_append, List.length_singleton] at hlt ⊢
    omega
  have hinside : z ∈ w := hprefix.subset (by simp)
  rw [hw z hinside] at hz
  cases hz

/-- At most one such text is in front of a text. -/
theorem EndsUnit.unique (hu : EndsUnit u) (hv : EndsUnit v) (h : u ++ rest = v ++ rest') :
    u = v ∧ rest = rest' :=
  List.append_inj h (Nat.le_antisymm (hu.length_le hv h) (hv.length_le hu h.symm))

/-- The end of such a text is one. -/
theorem EndsUnit.of_append (h : EndsUnit (u ++ v)) (hv : v ≠ []) : EndsUnit v := by
  obtain ⟨w, z, hw, hz, hnot⟩ := h
  obtain ⟨v', y, rfl⟩ := (List.eq_nil_or_concat' v).resolve_left hv
  rw [← List.append_assoc] at hw
  obtain ⟨rfl, hy⟩ := List.append_inj' hw rfl
  obtain rfl := List.singleton_inj.1 hy
  exact ⟨v', y, rfl, hz, fun c hc => hnot c (List.mem_append_right u hc)⟩

/-! ## Reading names of units -/

theorem afterWord?_eq_some_iff {word : String} (hword : word.toList.all plainLetters.contains) :
    afterWord? word s = some rest ↔
      ∃ u, s = u ++ rest ∧ List.Forall₂ (fun a c => c = a ∨ c = a.toUpper) word.toList u := by
  have hspelling (u : List Char) : List.Forall₂ (fun a c => sameLetter a c) word.toList u ↔
      List.Forall₂ (fun a c => c = a ∨ c = a.toUpper) word.toList u := by
    generalize word.toList = letters at hword
    induction letters generalizing u with
    | nil => simp
    | cons d letters ih =>
      rw [List.all_cons, Bool.and_eq_true] at hword
      simp only [List.forall₂_cons_left_iff, sameLetter_iff (List.contains_iff_mem.1 hword.1),
        ih _ hword.2]
  simp only [afterWord?, afterLeadCaseless?_eq_some_iff, hspelling]

theorem isUnitName_iff : IsUnitName u ↔ ∃ unit ∈ ["px", "rem", "vw"],
    List.Forall₂ (fun a c => c = a ∨ c = a.toUpper) unit.toList u := by
  constructor
  · intro h
    cases h with
    | px hp hx => exact ⟨"px", by simp, .cons hp (.cons hx .nil)⟩
    | rem hr he hm => exact ⟨"rem", by simp, .cons hr (.cons he (.cons hm .nil))⟩
    | vw hv hw => exact ⟨"vw", by simp, .cons hv (.cons hw .nil)⟩
  · rintro ⟨unit, hunit, h⟩
    simp only [List.mem_cons, List.not_mem_nil, or_false] at hunit
    rcases hunit with rfl | rfl | rfl
    · have h : List.Forall₂ _ ['p', 'x'] u := h
      rcases h with _ | ⟨hp, _ | ⟨hx, _ | _⟩⟩
      exact .px hp hx
    · have h : List.Forall₂ _ ['r', 'e', 'm'] u := h
      rcases h with _ | ⟨hr, _ | ⟨he, _ | ⟨hm, _ | _⟩⟩⟩
      exact .rem hr he hm
    · have h : List.Forall₂ _ ['v', 'w'] u := h
      rcases h with _ | ⟨hv, _ | ⟨hw, _ | _⟩⟩
      exact .vw hv hw

theorem afterUnit?_eq_some_iff :
    afterUnit? s = some rest ↔ ∃ u, IsUnitName u ∧ s = u ++ rest := by
  have hplain : ["px", "rem", "vw"].all fun unit => unit.toList.all plainLetters.contains := by
    decide
  have hread {unit : String} (hunit : unit ∈ ["px", "rem", "vw"]) (rest : List Char) :
      afterWord? unit s = some rest ↔
        ∃ u, s = u ++ rest ∧ List.Forall₂ (fun a c => c = a ∨ c = a.toUpper) unit.toList u :=
    afterWord?_eq_some_iff (List.all_eq_true.1 hplain unit hunit)
  have hsound {rest : List Char} (h : afterUnit? s = some rest) :
      ∃ u, IsUnitName u ∧ s = u ++ rest := by
    obtain ⟨unit, hunit, h⟩ := List.exists_of_findSome?_eq_some h
    obtain ⟨u, hs, hu⟩ := (hread hunit rest).1 h
    exact ⟨u, isUnitName_iff.2 ⟨unit, hunit, hu⟩, hs⟩
  refine ⟨hsound, ?_⟩
  rintro ⟨u, hu, hs⟩
  obtain ⟨unit, hunit, hspelled⟩ := isUnitName_iff.1 hu
  cases hafter : afterUnit? s with
  | none =>
    have hnone := List.findSome?_eq_none_iff.1 hafter unit hunit
    rw [(hread hunit rest).2 ⟨u, hs, hspelled⟩] at hnone
    cases hnone
  | some rest' =>
    obtain ⟨u', hu', hs'⟩ := hsound hafter
    rw [(hu.endsUnit.unique hu'.endsUnit (hs.symm.trans hs')).2]

/-! ## Lengths -/

/-- A number, blanks and the name of a unit. -/
def IsUnitLength (u : List Char) : Prop :=
  ∃ number : Numeral, ∃ blanks unit, number.IsWritten ∧ (∀ c ∈ blanks, isBlank c) ∧
    IsUnitName unit ∧ u = number.text ++ (blanks ++ unit)

/-- A length, or the name of a unit alone. -/
def IsUnitWord (u : List Char) : Prop := IsUnitLength u ∨ IsUnitName u

/-- A name of a unit starts with a letter. -/
theorem IsUnitName.head? (h : IsUnitName u) (hc : c ∈ (u ++ rest).head?) :
    isDigit c = false ∧ c ≠ '.' ∧ isBlank c = false := by
  cases h with
  | px hp hx =>
    cases hc
    rcases hp with rfl | rfl <;> decide
  | rem hr he hm =>
    cases hc
    rcases hr with rfl | rfl <;> decide
  | vw hv hw =>
    cases hc
    rcases hv with rfl | rfl <;> decide

/-- No number goes on with blanks and the name of a unit. -/
theorem IsUnitName.head?_blanks {blanks : List Char} (h : IsUnitName u)
    (hblanks : ∀ c ∈ blanks, isBlank c) :
    ∀ c ∈ (blanks ++ u ++ rest).head?, isDigit c = false ∧ c ≠ '.' := by
  cases blanks with
  | nil =>
    intro c hc
    obtain ⟨hdigit, hpoint, -⟩ := h.head? hc
    exact ⟨hdigit, hpoint⟩
  | cons b blanks =>
    rintro c ⟨⟩
    have hb := hblanks b List.mem_cons_self
    refine ⟨not_isDigit_of_isBlank hb, ?_⟩
    rintro rfl
    exact absurd hb (by decide)

theorem not_isLastLetter (h : isDigit c ∨ isBlank c) : isLastLetter c = false := by
  rw [← Bool.not_eq_true]
  intro hc
  have hall : ['x', 'X', 'm', 'M', 'w', 'W'].all fun c => !isDigit c && !isBlank c := by decide
  have := List.all_eq_true.1 hall c (List.contains_iff_mem.1 hc)
  rcases h with h | h
  · simp [h] at this
  · simp [h] at this

theorem IsUnitWord.endsUnit (h : IsUnitWord u) : EndsUnit u := by
  rcases h with ⟨number, blanks, unit, hwritten, hblanks, hunit, rfl⟩ | hunit
  · obtain ⟨v, z, rfl, hz, hv⟩ := hunit.endsUnit
    refine ⟨number.text ++ (blanks ++ v), z, by simp, hz, fun c hc => ?_⟩
    rw [List.mem_append, List.mem_append] at hc
    rcases hc with hc | hc | hc
    · rcases hwritten.mem_text hc with hc | rfl
      · exact not_isLastLetter (.inl hc)
      · rfl
    · exact not_isLastLetter (.inr (hblanks c hc))
    · exact hv c hc
  · exact hunit.endsUnit

theorem IsUnitWord.ne_nil (h : IsUnitWord u) : u ≠ [] := by
  obtain ⟨v, z, rfl, -⟩ := h.endsUnit
  simp

/-! ## Matches -/

/-- A number with a unit behind it, or a unit alone, and the text after it. -/
def readUnitWord? (s : List Char) : Option (List Char) :=
  match Numeral.read? s with
  | some (_, rest) => afterUnit? (trimLeft rest)
  | none => afterUnit? s

theorem readUnitWord?_eq_some_iff :
    readUnitWord? s = some rest ↔ ∃ u, IsUnitWord u ∧ s = u ++ rest := by
  constructor
  · intro h
    unfold readUnitWord? at h
    split at h
    · next number t hread =>
      obtain ⟨hwritten, rfl⟩ := Numeral.text_of_read? hread
      obtain ⟨unit, hunit, htrim⟩ := afterUnit?_eq_some_iff.1 h
      have ht : t.takeWhile isBlank ++ trimLeft t = t := List.takeWhile_append_dropWhile
      refine ⟨number.text ++ (t.takeWhile isBlank ++ unit), .inl ⟨number, _, unit, hwritten,
        fun c hc => List.mem_takeWhile_imp hc, hunit, rfl⟩, ?_⟩
      rw [List.append_assoc, List.append_assoc, ← htrim, ht]
    · obtain ⟨u, hu, hs⟩ := afterUnit?_eq_some_iff.1 h
      exact ⟨u, .inr hu, hs⟩
  · rintro ⟨u, ⟨number, blanks, unit, hwritten, hblanks, hunit, rfl⟩ | hu, rfl⟩
    · have hread : Numeral.read? (number.text ++ (blanks ++ unit ++ rest)) =
          some (number, blanks ++ unit ++ rest) :=
        Numeral.read?_text hwritten (hunit.head?_blanks hblanks)
      have htrim : trimLeft (blanks ++ unit ++ rest) = unit ++ rest := by
        rw [trimLeft, List.append_assoc]
        exact dropWhile_run hblanks fun c hc => (hunit.head? hc).2.2
      rw [readUnitWord?, List.append_assoc, hread]
      dsimp only
      rw [htrim]
      exact afterUnit?_eq_some_iff.2 ⟨unit, hunit, rfl⟩
    · have hread : Numeral.read? (u ++ rest) = none := by
        have hwhole : (u ++ rest).takeWhile isDigit = [] :=
          takeWhile_run (a := []) (by simp) fun c hc => (hu.head? hc).1
        unfold Numeral.read?
        dsimp only
        rw [hwhole]
        rfl
      rw [readUnitWord?, hread]
      exact afterUnit?_eq_some_iff.2 ⟨u, hu, rfl⟩

/-- A match: a length or the name of a unit between the ends of a word. -/
theorem unitWord_eq_some_iff :
    unitWord before s = some n ↔ wordStartsAfter before ∧
      ∃ u rest, s = u ++ rest ∧ u.length = n ∧ IsUnitWord u ∧ wordEndsBefore rest := by
  have hread (rest : List Char) :
      ((guard (wordStartsAfter before) : Option Unit).bind fun _ =>
        (readUnitWord? s).bind fun rest =>
          (guard (wordEndsBefore rest) : Option Unit).bind fun _ => some rest) = some rest ↔
      wordStartsAfter before ∧ (∃ u, IsUnitWord u ∧ s = u ++ rest) ∧ wordEndsBefore rest := by
    rw [guard_bind_eq_some_iff, Option.bind_eq_some_iff, ← readUnitWord?_eq_some_iff]
    constructor
    · rintro ⟨hb, rest', hr, hend⟩
      obtain ⟨he, hrest⟩ := guard_bind_eq_some_iff.1 hend
      cases hrest
      exact ⟨hb, hr, he⟩
    · rintro ⟨hb, hr, he⟩
      exact ⟨hb, rest, hr, guard_bind_eq_some_iff.2 ⟨he, rfl⟩⟩
  have hpattern : unitWord before s = some n ↔ ∃ rest,
      ((guard (wordStartsAfter before) : Option Unit).bind fun _ =>
        (readUnitWord? s).bind fun rest =>
          (guard (wordEndsBefore rest) : Option Unit).bind fun _ => some rest) = some rest ∧
        s.length - rest.length = n := by
    rw [unitWord, patternOf_eq_some_iff, readUnitWord?]
    cases Numeral.read? s <;> exact Iff.rfl
  rw [hpattern]
  constructor
  · rintro ⟨rest, h, hn⟩
    obtain ⟨hb, ⟨u, hu, rfl⟩, he⟩ := (hread rest).1 h
    refine ⟨hb, u, rest, rfl, ?_, hu, he⟩
    rw [← hn, List.length_append]
    omega
  · rintro ⟨hb, u, rest, rfl, rfl, hu, he⟩
    refine ⟨rest, (hread rest).2 ⟨hb, ⟨u, hu, rfl⟩, he⟩, ?_⟩
    rw [List.length_append]
    omega

/-! ## Pieces -/

/-- Every hit among the pieces of a text is a length or the name of a unit, as words of their own. -/
theorem isUnitWord_of_hit {front back : List Pattern.Piece}
    (h : unitWord.pieces s = front ++ .hit t :: back) :
    IsUnitWord t ∧ wordStartsAfter (Pattern.joined front).getLast? ∧
      wordEndsBefore (Pattern.joined back) := by
  obtain ⟨-, n, hmatch, ht⟩ := Pattern.exists_match_of_pieces h
  obtain ⟨hb, u, rest, hs, rfl, hu, he⟩ := unitWord_eq_some_iff.1 hmatch
  rw [hs, List.take_left] at ht
  subst ht
  rw [List.append_cancel_left_eq] at hs
  rw [hs]
  exact ⟨hu, hb, he⟩

/-- A hit holds each length and each name of a unit that are words of their own: the hit that such
a word starts in ends with the same unit. -/
theorem exists_hit_of_isUnitWord (hs : s = a ++ (u ++ b)) (hu : IsUnitWord u)
    (hstart : wordStartsAfter a.getLast?) (hend : wordEndsBefore b) :
    ∃ front d back, unitWord.pieces s = front ++ .hit (d ++ u) :: back ∧
      a = Pattern.joined front ++ d := by
  have hmatch : unitWord a.getLast? (u ++ b) = some u.length :=
    unitWord_eq_some_iff.2 ⟨hstart, u, b, rfl, rfl, hu, hend⟩
  obtain ⟨k, hk⟩ := Nat.exists_eq_succ_of_ne_zero (List.length_pos_iff.2 hu.ne_nil).ne'
  rw [hk] at hmatch
  obtain ⟨front, t, back, hpieces, hle, hlt⟩ :=
    Pattern.exists_hit_of_match (List.append_ne_nil_of_left_ne_nil hu.ne_nil b) hmatch
  rw [← hs] at hpieces
  have htext : Pattern.joined front ++ (t ++ Pattern.joined back) = a ++ (u ++ b) := by
    have hjoined := Pattern.joined_pieces unitWord s
    rw [hpieces, Pattern.joined, List.flatMap_append] at hjoined
    exact hjoined.trans hs
  obtain ⟨d, rfl⟩ := List.prefix_of_prefix_length_le ⟨_, htext⟩ (List.prefix_append a _) hle
  rw [List.append_assoc, List.append_cancel_left_eq] at htext
  -- What is left of the hit where the word starts ends a unit, and so does the word.
  obtain ⟨ht, -⟩ := isUnitWord_of_hit hpieces
  obtain ⟨w, rfl⟩ := List.prefix_of_prefix_length_le (List.prefix_append d _) ⟨_, htext⟩ (by
    rw [List.length_append] at hlt
    omega)
  rw [List.append_assoc, List.append_cancel_left_eq] at htext
  have hw : w ≠ [] := by
    rintro rfl
    rw [List.append_nil, List.length_append] at hlt
    omega
  obtain ⟨rfl, -⟩ := (ht.endsUnit.of_append hw).unique hu.endsUnit htext
  exact ⟨front, d, back, hpieces, rfl⟩

end Length

end Reflow
