import Mathlib.Data.List.DropRight
import Mathlib.Data.List.TakeWhile
import Reflow.Proofs.Lists
import Reflow.Text.Blank
import Reflow.Text.Case
import Reflow.Text.Word

/-!
# Characters

Which classes of characters exclude each other, and what reading does to the characters of each.

* `not_isDigit_of_isBlank`, `not_isWord_of_isBlank`: no digit and no character of a word is white
  space. `trim_append_left`, `trim_append_right`: white space at the ends of a text is taken off.
* `digitValue?_of_isDigit`, `numeral_toDigits`: the ten ASCII digits, and the number they write.
* `sameLetter_iff`: the letters of units have two spellings, the colon has one. `k` and `s` have
  more, so this is not true of every letter.
* `isNameCharacter`: the small letters and the hyphen. They stay as they are in lower case, and
  each is the only one of them that is the same letter (`eq_of_sameLetter`). A digit is a letter of
  its own too (`letterKey_of_isDigit`).
-/

namespace Reflow.Text

variable {c d : Char}

/-! ## Decimal digits -/

theorem exists_zero_of_isDigit (h : isDigit c) :
    ∃ z ∈ zeroDigits, z ≤ c.toNat ∧ c.toNat < z + 10 := by
  obtain ⟨value, hvalue⟩ := Option.isSome_iff_exists.1 h
  obtain ⟨z, hz, hc⟩ := List.exists_of_findSome?_eq_some hvalue
  rw [Option.ite_none_right_eq_some] at hc
  exact ⟨z, hz, hc.1⟩

theorem isDigit_dot : isDigit '.' = false := by decide

theorem toNat_of_isDigit (h : c.isDigit) : 48 ≤ c.toNat ∧ c.toNat < 58 := by
  simp only [Char.isDigit, Bool.and_eq_true, decide_eq_true_eq, UInt32.le_iff_toNat_le] at h
  exact ⟨h.1, Nat.lt_succ_of_le h.2⟩

theorem digitValue?_of_isDigit (h : c.isDigit) : digitValue? c = some (c.toNat - 48) := by
  have hc := toNat_of_isDigit h
  rw [digitValue?, zeroDigits, List.findSome?_cons, if_pos (by omega)]

theorem isDigit_of_isDigit (h : c.isDigit) : isDigit c := by
  rw [isDigit, digitValue?_of_isDigit h]
  rfl

theorem isDigit_of_mem_toDigits {n : Nat} (h : c ∈ Nat.toDigits 10 n) : c.isDigit :=
  Nat.isDigit_of_mem_toDigits (by decide) (by decide) h

/-- The digits of a number write it. -/
theorem numeral_toDigits (n : Nat) : numeral (Nat.toDigits 10 n) = n := by
  have hfold (digits : List Char) (hdigits : ∀ c ∈ digits, c.isDigit) (first : Nat) :
      digits.foldl (fun n c => 10 * n + (digitValue? c).getD 0) first =
        Nat.ofDigitChars 10 digits first := by
    induction digits generalizing first with
    | nil => simp
    | cons c digits ih =>
      obtain ⟨hc, hdigits⟩ := List.forall_mem_cons.1 hdigits
      rw [List.foldl_cons, Nat.ofDigitChars_cons, ih hdigits, digitValue?_of_isDigit hc]
      rfl
  rw [numeral, hfold _ fun c => isDigit_of_mem_toDigits, Nat.ofDigitChars_ten_toDigits]

/-! ## White space -/

theorem not_isDigit_of_isBlank (h : isBlank c) : isDigit c = false := by
  have hapart : ∀ r ∈ blankRanges, ∀ z ∈ zeroDigits, r.2 < z ∨ z + 10 ≤ r.1 := by decide
  obtain ⟨r, hr, hc⟩ := List.any_eq_true.1 h
  simp only [Bool.and_eq_true, decide_eq_true_eq] at hc
  rw [← Bool.not_eq_true]
  intro hdigit
  obtain ⟨z, hz, hstart, hend⟩ := exists_zero_of_isDigit hdigit
  have := hapart r hr z hz
  omega

/-! ## Characters of words -/

/-- The blanks are few, and none of them is a character of a word. -/
theorem not_isWord_of_isBlank (h : isBlank c) : isWord c = false := by
  have hall : ∀ r ∈ blankRanges, ∀ n < r.2 + 1 - r.1, isWord (Char.ofNat (r.1 + n)) = false := by
    decide +kernel
  obtain ⟨r, hr, hc⟩ := List.any_eq_true.1 h
  simp only [Bool.and_eq_true, decide_eq_true_eq] at hc
  have hword := hall r hr (c.toNat - r.1) (by omega)
  rwa [Nat.add_sub_cancel' hc.1, Char.ofNat_toNat] at hword

theorem wordStartsAfter_of_blank {before : Option Char} (h : ∀ c ∈ before, isBlank c) :
    wordStartsAfter before := by
  cases before with
  | none => rfl
  | some c =>
    have hc := not_isWord_of_isBlank (h c rfl)
    simp [wordStartsAfter, hc]

section Trim

variable {a b s : List Char}

theorem trimLeft_append (h : ∀ c ∈ a, isBlank c) (s : List Char) : trimLeft (a ++ s) = trimLeft s :=
  List.dropWhile_append_of_pos h

theorem trimLeft_of_blank (h : ∀ c ∈ a, isBlank c) : trimLeft a = [] :=
  List.dropWhile_eq_nil_iff.2 h

theorem trim_append_left (h : ∀ c ∈ a, isBlank c) (s : List Char) : trim (a ++ s) = trim s := by
  rw [trim, trimLeft_append h, trim]

theorem trimRight_append (h : ∀ c ∈ b, isBlank c) (s : List Char) :
    trimRight (s ++ b) = trimRight s := by
  have hb : ∀ c ∈ b.reverse, isBlank c := fun c hc => h c (List.mem_reverse.1 hc)
  rw [trimRight, List.reverse_append, trimLeft_append hb, trimRight]

theorem trim_append_right (h : ∀ c ∈ b, isBlank c) (s : List Char) : trim (s ++ b) = trim s := by
  have hdrop : trimLeft (s ++ b) = if (trimLeft s).isEmpty then trimLeft b else trimLeft s ++ b :=
    List.dropWhile_append
  rw [trim, hdrop]
  split
  · next hs => rw [trimLeft_of_blank h, trim, List.isEmpty_iff.1 hs]
  · rw [trimRight_append h, trim]

/-- What is left after trimming starts and ends with no blank. -/
theorem trim_trim (s : List Char) : trim (trim s) = trim s := by
  have hleft : trimLeft (trim s) = trim s := by
    cases htrim : trim s with
    | nil => rfl
    | cons c t =>
      obtain ⟨rest, hrest⟩ : trim s <+: trimLeft s := List.rdropWhile_prefix isBlank _
      have hhead := List.head?_dropWhile_not isBlank s
      rw [show s.dropWhile isBlank = trimLeft s from rfl, ← hrest, htrim] at hhead
      refine List.dropWhile_cons_of_neg ?_
      simpa using hhead
  have hright : trimRight (trim s) = trim s := List.rdropWhile_idempotent isBlank _
  rw [trim, hleft, hright]

/-- A text without blanks at its ends starts with another character. -/
theorem not_isBlank_of_trim (h : trim (c :: s) = c :: s) : isBlank c = false := by
  rw [← Bool.not_eq_true]
  intro hc
  have hblank : ∀ d ∈ [c], isBlank d := List.forall_mem_singleton.2 hc
  have hle : (trim s).length ≤ s.length :=
    (List.rdropWhile_prefix isBlank _).length_le.trans (List.dropWhile_suffix _).length_le
  rw [← trim_append_left hblank, List.singleton_append, h, List.length_cons] at hle
  omega

theorem trim_of_no_blank (h : ∀ c ∈ s, isBlank c = false) : trim s = s := by
  have hleft (t : List Char) (ht : ∀ c ∈ t, isBlank c = false) : trimLeft t = t := by
    cases t with
    | nil => rfl
    | cons c t =>
      have hc : ¬ isBlank c := by simp [ht c List.mem_cons_self]
      exact List.dropWhile_cons_of_neg hc
  rw [trim, hleft s h, trimRight, hleft s.reverse fun c hc => h c (List.mem_reverse.1 hc),
    List.reverse_reverse]

end Trim

/-! ## Letter case -/

/-- A character made of a code point has it, unless it is the one that stands for no code point. -/
theorem eq_toNat_of_ofNat {n : Nat} (hd : d.toNat ≠ 0) (h : Char.ofNat n = d) : n = d.toNat := by
  by_cases hv : n.isValidChar
  · rw [Char.ofNat, dif_pos hv] at h
    exact congrArg Char.toNat h
  · rw [Char.ofNat, dif_neg hv] at h
    exact absurd (h ▸ rfl) hd

/-- Letters that have two spellings, and the colon, which has one. -/
def plainLetters : List Char := ['p', 'x', 'r', 'e', 'm', 'v', 'w', ':']

private theorem toNat_of_plain (hd : d ∈ plainLetters) : d.toNat ≠ 0 ∧ d.toNat < 0x80 := by
  have hall : plainLetters.all fun d => d.toNat ≠ 0 && d.toNat < 0x80 := by decide
  simpa using List.all_eq_true.1 hall d hd

/-- No letter past ASCII has a plain letter for its small letter: the runs of the table lead past
all of them, or between them. -/
private theorem lowerChar_eq (hd : d ∈ plainLetters) (h : lowerChar c = d) :
    c.toNat < 0x80 ∧ c.toLower = d := by
  obtain ⟨hzero, hascii⟩ := toNat_of_plain hd
  unfold lowerChar at h
  split at h
  · next hc => exact ⟨hc, h⟩
  · next hc =>
    split at h
    · subst h
      exact absurd hd (by decide)
    · rw [mapCase] at h
      cases ho : lowerRuns.findSome? (·.other? c.toNat) with
      | none =>
        rw [ho] at h
        have : c = d := h
        subst this
        omega
      | some m =>
        rw [ho] at h
        have hm : m = d.toNat := eq_toNat_of_ofNat hzero h
        have hruns : ∀ r ∈ lowerRuns, plainLetters.all fun d =>
            (d.toNat : Int) < r.first + r.offset || (r.last : Int) + r.offset < d.toNat := by
          decide +kernel
        obtain ⟨r, hr, hother⟩ := List.exists_of_findSome?_eq_some ho
        have hrun := List.all_eq_true.1 (hruns r hr) d hd
        rw [Bool.or_eq_true, decide_eq_true_eq, decide_eq_true_eq] at hrun
        unfold CaseRun.other? at hother
        split at hother
        · cases hother
          omega
        · cases hother

private theorem toLower_eq (hd : d ∈ plainLetters) (h : letterKey c = d) :
    c.toNat < 0x80 ∧ c.toLower = d := by
  have hkeys : ∀ e ∈ letterKeys, plainLetters.all fun d => e.2 ≠ d.toNat := by decide
  unfold letterKey at h
  dsimp only at h
  cases hl : letterKeys.lookup (lowerChar c).toNat with
  | none =>
    rw [hl] at h
    exact lowerChar_eq hd h
  | some n =>
    rw [hl] at h
    have hn : n = d.toNat := eq_toNat_of_ofNat (toNat_of_plain hd).1 h
    have hne := List.all_eq_true.1 (hkeys _ (mem_of_lookup hl)) d hd
    exact absurd hn (of_decide_eq_true hne)

/-- The spellings of a plain letter are itself and its capital letter. -/
theorem sameLetter_iff (hd : d ∈ plainLetters) : sameLetter d c ↔ c = d ∨ c = d.toUpper := by
  have hkeys : plainLetters.all fun d => letterKey d == d && letterKey d.toUpper == d := by decide
  have hkey := List.all_eq_true.1 hkeys d hd
  rw [Bool.and_eq_true, beq_iff_eq, beq_iff_eq] at hkey
  rw [sameLetter, beq_iff_eq, hkey.1]
  constructor
  · intro h
    have hall : plainLetters.all fun d => (List.range 0x80).all fun n =>
        (Char.ofNat n).toLower != d || Char.ofNat n == d || Char.ofNat n == d.toUpper := by
      decide +kernel
    obtain ⟨hc, hlower⟩ := toLower_eq hd h.symm
    have hn := List.all_eq_true.1 (List.all_eq_true.1 hall d hd) c.toNat (List.mem_range.2 hc)
    rw [Char.ofNat_toNat, hlower] at hn
    simpa using hn
  · rintro (rfl | rfl)
    · exact hkey.1.symm
    · exact hkey.2.symm

theorem sameLetter_p_iff : sameLetter 'p' c ↔ c = 'p' ∨ c = 'P' := sameLetter_iff (by decide)

theorem sameLetter_x_iff : sameLetter 'x' c ↔ c = 'x' ∨ c = 'X' := sameLetter_iff (by decide)

/-- A colon has no other spelling. -/
theorem sameLetter_colon_iff : sameLetter ':' c ↔ c = ':' :=
  (sameLetter_iff (by decide)).trans (or_iff_left_of_imp id)

/-! ## Characters of names -/

/-- The characters of property names: small letters and the hyphen. -/
def isNameCharacter (c : Char) : Bool := c == '-' || ('a' ≤ c && c ≤ 'z')

/-- What is true of all ASCII characters of names is true of all. -/
private theorem of_isNameCharacter {p : Char → Prop}
    (hall : ∀ n < 0x80, isNameCharacter (Char.ofNat n) → p (Char.ofNat n))
    (h : isNameCharacter c) : p c := by
  have hc : c.toNat < 0x80 := by
    simp only [isNameCharacter, Bool.or_eq_true, beq_iff_eq, Bool.and_eq_true,
      decide_eq_true_eq] at h
    rcases h with rfl | ⟨-, hz⟩
    · decide
    · have hle : c.toNat ≤ 'z'.toNat := hz
      exact Nat.lt_of_le_of_lt hle (by decide)
  have := hall c.toNat hc
  rw [Char.ofNat_toNat] at this
  exact this h

theorem not_isBlank_of_isNameCharacter (h : isNameCharacter c) : isBlank c = false :=
  of_isNameCharacter (p := fun c => isBlank c = false) (by decide) h

theorem not_isDigit_of_isNameCharacter (h : isNameCharacter c) : isDigit c = false :=
  of_isNameCharacter (p := fun c => isDigit c = false) (by decide) h

theorem isWord_or_eq_of_isNameCharacter (h : isNameCharacter c) : (isWord c || c == '-') = true :=
  of_isNameCharacter (p := fun c => (isWord c || c == '-') = true) (by decide) h

theorem lowerWithin_of_isNameCharacter (h : isNameCharacter c) (before after : List Char) :
    lowerWithin before c after = [c] := by
  have hsmall : c ≠ 'Σ' ∧ c ≠ 'İ' ∧ lowerChar c = c :=
    of_isNameCharacter (p := fun c => c ≠ 'Σ' ∧ c ≠ 'İ' ∧ lowerChar c = c) (by decide) h
  rw [lowerWithin, if_neg hsmall.1, if_neg hsmall.2.1, hsmall.2.2]

theorem letterKey_of_isNameCharacter (h : isNameCharacter c) : letterKey c = c :=
  of_isNameCharacter (p := fun c => letterKey c = c) (by decide) h

/-- A name is in lower case. -/
theorem lower_of_isNameCharacter {s : List Char} (h : ∀ c ∈ s, isNameCharacter c) :
    lower s = s := by
  have hafter (before : List Char) : lowerAfter before s = s := by
    induction s generalizing before with
    | nil => rfl
    | cons c s ih =>
      obtain ⟨hc, hs⟩ := List.forall_mem_cons.1 h
      rw [lowerAfter, lowerWithin_of_isNameCharacter hc, ih hs]
      rfl
  exact hafter []

/-- No digit has a case: the runs of the table lead past all of them. -/
theorem lowerChar_of_isDigit (h : isDigit c) : lowerChar c = c := by
  have hascii : ∀ n < 10, (Char.ofNat (0x30 + n)).toLower = Char.ofNat (0x30 + n) := by decide
  have hzero : ∀ z ∈ zeroDigits, z = 0x30 ∨ 0x80 ≤ z := by decide
  have hruns : lowerRuns.all fun r => zeroDigits.all fun z => r.last < z || z + 10 ≤ r.first := by
    decide +kernel
  obtain ⟨z, hz, hc⟩ := exists_zero_of_isDigit h
  unfold lowerChar
  split
  · obtain rfl : z = 0x30 := (hzero z hz).resolve_right (by omega)
    have hlower := hascii (c.toNat - 0x30) (by omega)
    rwa [Nat.add_sub_cancel' hc.1, Char.ofNat_toNat] at hlower
  split
  · subst c
    exact absurd h (by decide)
  · have hnone : lowerRuns.findSome? (·.other? c.toNat) = none := by
      refine List.findSome?_eq_none_iff.2 fun r hr => if_neg ?_
      have hrun := List.all_eq_true.1 (List.all_eq_true.1 hruns r hr) z hz
      rw [Bool.or_eq_true, decide_eq_true_eq, decide_eq_true_eq] at hrun
      omega
    rw [mapCase, hnone]
    rfl

/-- A digit has no other spelling. -/
theorem letterKey_of_isDigit (h : isDigit c) : letterKey c = c := by
  have hkeys : ∀ e ∈ letterKeys, ∀ z ∈ zeroDigits, e.1 < z ∨ z + 10 ≤ e.1 := by decide +kernel
  obtain ⟨z, hz, hc⟩ := exists_zero_of_isDigit h
  unfold letterKey
  dsimp only
  rw [lowerChar_of_isDigit h]
  cases hl : letterKeys.lookup c.toNat with
  | none => rfl
  | some n =>
    have hkey : c.toNat < z ∨ z + 10 ≤ c.toNat := hkeys _ (mem_of_lookup hl) z hz
    omega

/-- No spelling of a character of names is a digit. -/
theorem not_isDigit_of_sameLetter (hd : isNameCharacter d) (h : sameLetter d c) :
    isDigit c = false := by
  rw [← Bool.not_eq_true]
  intro hc
  have hsame : letterKey d = letterKey c := eq_of_beq h
  rw [letterKey_of_isNameCharacter hd, letterKey_of_isDigit hc] at hsame
  subst hsame
  rw [not_isDigit_of_isNameCharacter hd] at hc
  cases hc

/-- Among the characters of names and the space, each is a letter of its own. -/
theorem eq_of_sameLetter (hc : isNameCharacter c) (hd : isNameCharacter d ∨ d = ' ')
    (h : sameLetter c d) : c = d := by
  have hkey : letterKey d = d := by
    rcases hd with hd | rfl
    · exact letterKey_of_isNameCharacter hd
    · decide
  have := eq_of_beq h
  rwa [letterKey_of_isNameCharacter hc, hkey] at this

end Reflow.Text
