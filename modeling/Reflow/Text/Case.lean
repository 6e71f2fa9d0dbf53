import Reflow.Text.CodeRange
import Reflow.Text.CaseTable

/-!
# Letter case

* `lower` and `upper` are the full mappings: one letter may become several, and a capital sigma at
  the end of a word becomes a final sigma.
* `sameLetter` compares two characters up to case, and up to the spellings of one letter.
* `fold` removes case from the characters that fold to ASCII text; the others stand for
  themselves, which is enough to compare with an ASCII word.
-/

namespace Reflow.Text

/-- The other case of `c` by the runs of a table. -/
def mapCase (runs : List CaseRun) (c : Char) : Char :=
  ((runs.findSome? (·.other? c.toNat)).map Char.ofNat).getD c

/-- The lower case of one letter taken alone. -/
def lowerChar (c : Char) : Char :=
  if c.toNat < 0x80 then c.toLower else if c = 'İ' then 'i' else mapCase lowerRuns c

/-- Whether the first character that is not passed over has a case. -/
def reachesCased (s : List Char) : Bool :=
  ((s.dropWhile (inRanges caseIgnorableRanges)).head?).any (inRanges casedRanges)

/-- The lower case of `c` between the text `before`, read backwards, and the text `after`. -/
def lowerWithin (before : List Char) (c : Char) (after : List Char) : List Char :=
  if c = 'Σ' then [if reachesCased before && !reachesCased after then 'ς' else 'σ']
  else if c = 'İ' then ['i', '\u0307']
  else [lowerChar c]

/-- The lower case of `s`, given the text in front of it read backwards. -/
def lowerAfter (before : List Char) : List Char → List Char
  | [] => []
  | c :: rest => lowerWithin before c rest ++ lowerAfter (c :: before) rest

/-- The text in lower case. -/
def lower (s : List Char) : List Char := lowerAfter [] s

/-- The upper case of one letter, which may be several characters. -/
def upperChar (c : Char) : List Char :=
  if c.toNat < 0x80 then [c.toUpper]
  else match upperTexts.lookup c.toNat with
    | some codes => codes.map Char.ofNat
    | none => [mapCase upperRuns c]

/-- The text in upper case. -/
def upper (s : List Char) : List Char := s.flatMap upperChar

/-- The small letter that stands for every spelling of `c`. -/
def letterKey (c : Char) : Char :=
  let small := lowerChar c
  ((letterKeys.lookup small.toNat).map Char.ofNat).getD small

/-- Whether two characters are the same letter up to case. -/
def sameLetter (a b : Char) : Bool := letterKey a == letterKey b

/-- The characters outside ASCII that fold to ASCII text. -/
def asciiFolds : List (Nat × String) := [
  (0xDF, "ss"), (0x17F, "s"), (0x1E9E, "ss"), (0x212A, "k"), (0xFB00, "ff"), (0xFB01, "fi"),
  (0xFB02, "fl"), (0xFB03, "ffi"), (0xFB04, "ffl"), (0xFB05, "st"), (0xFB06, "st")]

/-- The text with case removed where it folds to ASCII. -/
def fold (s : List Char) : List Char :=
  s.flatMap fun c => ((asciiFolds.lookup c.toNat).map String.toList).getD [c.toLower]

end Reflow.Text
