import Reflow.Text.Case

/-!
# Search in a text

* `afterLead?` and `afterLeadCaseless?` read a fixed text at the front of another.
* `contains` and `breakAt?` look for a text inside another; `splitAt` cuts a text at a character.
* A `Pattern` recognises pieces of text at a place; `Pattern.first?` and `Pattern.last?` find the
  leftmost and the rightmost place where it does, `Pattern.pieces` all of them without overlap.
-/

namespace Reflow.Text

/-! ## Fixed texts -/

/-- What follows `lead` in `s`, if `s` starts with it. -/
def afterLead? : List Char → List Char → Option (List Char)
  | [], s => some s
  | _ :: _, [] => none
  | a :: lead, b :: s => if a = b then afterLead? lead s else none

/-- What follows `lead` in `s`, if `s` starts with it up to letter case. -/
def afterLeadCaseless? : List Char → List Char → Option (List Char)
  | [], s => some s
  | _ :: _, [] => none
  | a :: lead, b :: s => if sameLetter a b then afterLeadCaseless? lead s else none

/-- The text before the first occurrence of `needle` and the text after it. -/
def breakAt? (needle : List Char) : List Char → Option (List Char × List Char)
  | [] => if needle.isEmpty then some ([], []) else none
  | c :: s =>
    match afterLead? needle (c :: s) with
    | some rest => some ([], rest)
    | none => (breakAt? needle s).map fun (before, rest) => (c :: before, rest)

theorem length_afterLead? {lead s rest : List Char} (h : afterLead? lead s = some rest) :
    lead.length + rest.length = s.length := by
  fun_induction afterLead? lead s with
  | case1 s => cases h; simp
  | case2 => simp at h
  | case3 a lead s ih => have := ih h; simp; omega
  | case4 => simp at h

theorem length_breakAt? {needle s before rest : List Char}
    (h : breakAt? needle s = some (before, rest)) :
    before.length + needle.length + rest.length = s.length := by
  induction s generalizing before with
  | nil =>
    simp only [breakAt?] at h
    split at h
    · cases h; simp_all
    · simp at h
  | cons c s ih =>
    simp only [breakAt?] at h
    split at h
    · next hl => cases h; simpa using length_afterLead? hl
    · obtain ⟨⟨b, r⟩, hb, he⟩ := Option.map_eq_some_iff.1 h
      cases he
      have : b.length + needle.length + r.length = s.length := ih hb
      simp only [List.length_cons]; omega

/-- Whether `needle` occurs in `s`. -/
def contains (needle s : List Char) : Bool := (breakAt? needle s).isSome

/-- Whether a word of ASCII letters occurs in `s`. -/
def mentions (word : String) (s : List Char) : Bool := contains word.toList s

/-- The pieces of a text between the occurrences of a character, at least one. -/
def splitAt (mark : Char) : List Char → List (List Char)
  | [] => [[]]
  | c :: s =>
    if c = mark then [] :: splitAt mark s
    else match splitAt mark s with
      | [] => [[c]]
      | piece :: pieces => (c :: piece) :: pieces

/-- The lines of a text. Only the line feed ends a line. -/
def lines (s : List Char) : List (List Char) := splitAt '\n' s

/-! ## Patterns -/

/-- A pattern gives the length of its match at a place, from the character before the place and
the text after it. -/
abbrev Pattern := Option Char → List Char → Option Nat

/-- A place in a text and a number of characters from there on. -/
structure Extent where
  start : Nat
  length : Nat
deriving DecidableEq, Repr

/-- The offset behind the last character. -/
def Extent.stop (e : Extent) : Nat := e.start + e.length

/-- The characters of `s` at the extent. -/
def Extent.cut (e : Extent) (s : List Char) : List Char := (s.drop e.start).take e.length

namespace Pattern

/-- The leftmost match in `s`, whose first character has the offset `start` and follows `before`. -/
def firstFrom? (p : Pattern) (before : Option Char) (start : Nat) : List Char → Option Extent
  | [] => (p before []).map (Extent.mk start)
  | c :: s =>
    match p before (c :: s) with
    | some length => some ⟨start, length⟩
    | none => firstFrom? p (some c) (start + 1) s

/-- The leftmost match in a text. -/
def first? (p : Pattern) (s : List Char) : Option Extent := p.firstFrom? none 0 s

/-- The rightmost place that matches in `s`, read as in `firstFrom?`. -/
def lastFrom? (p : Pattern) (before : Option Char) (start : Nat) : List Char → Option Extent
  | [] => (p before []).map (Extent.mk start)
  | c :: s => (lastFrom? p (some c) (start + 1) s).or ((p before (c :: s)).map (Extent.mk start))

/-- Whether the pattern matches somewhere. -/
def occursIn (p : Pattern) (s : List Char) : Bool := (p.first? s).isSome

/-- A piece of a text that a pattern has cut up: a match, or a character outside every match. -/
inductive Piece where
  | plain (c : Char)
  | hit (text : List Char)
deriving DecidableEq, Repr

/-- The text cut into matches, each as far left as possible, and the characters between them. -/
def piecesFrom (p : Pattern) (before : Option Char) (s : List Char) : List Piece :=
  match p before s, s with
  | _, [] => []
  | some (n + 1), c :: rest =>
    .hit (c :: rest.take n) :: piecesFrom p ((c :: rest.take n).getLast?) (rest.drop n)
  | _, c :: rest => .plain c :: piecesFrom p (some c) rest
termination_by s.length
decreasing_by all_goals simp only [List.length_cons, List.length_drop]; omega

/-- The pieces of a whole text. -/
def pieces (p : Pattern) (s : List Char) : List Piece := p.piecesFrom none s

/-- The matches in a text, from left to right and without overlap. -/
def hits (p : Pattern) (s : List Char) : List (List Char) :=
  (p.pieces s).filterMap fun
    | .hit text => some text
    | .plain _ => none

end Pattern

end Reflow.Text
