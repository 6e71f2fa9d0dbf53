import Reflow.Text.Digit

/-!
# Integers as texts

Between an integer and its decimal digits there is a limit: a row of more digits is not read, and an
integer of more digits is not written. Doubles have no such limit, however they are written.

* `readDigits` reads a row of digits, `writeInteger` writes an integer.
* `IsWritable`: the integers that are written.
-/

namespace Reflow.Text

/-- The most digits of an integer that is read or written. -/
def digitLimit : Nat := 4300

/-- Why an integer is not read or not written: there are too many digits to read, or to write. -/
inductive DigitError where
  | unreadable (digits : Nat)
  | unwritable
deriving DecidableEq, Repr

/-- The message for too many digits. -/
def DigitError.message (e : DigitError) : String :=
  let limit := "Exceeds the limit (" ++ toString digitLimit
    ++ " digits) for integer string conversion"
  let remedy := "; use sys.set_int_max_str_digits() to increase the limit"
  match e with
  | unreadable digits => limit ++ ": value has " ++ toString digits ++ " digits" ++ remedy
  | unwritable => limit ++ remedy

/-- The number that a row of digits writes. Zeros in front count as digits. -/
def readDigits (digits : List Char) : Except DigitError Nat :=
  if digitLimit < digits.length then .error (.unreadable digits.length) else .ok (numeral digits)

/-- Whether an integer has few enough digits to be written. The sign does not count. -/
def IsWritable (n : Int) : Prop := (Nat.toDigits 10 n.natAbs).length ≤ digitLimit

instance (n : Int) : Decidable (IsWritable n) :=
  inferInstanceAs (Decidable ((Nat.toDigits 10 n.natAbs).length ≤ digitLimit))

/-- The integer in decimal digits, behind a minus sign if it is negative. -/
def writeInteger (n : Int) : Except DigitError String :=
  if IsWritable n then .ok (toString n) else .error .unwritable

theorem readDigits_eq_ok_iff {digits : List Char} {n : Nat} :
    readDigits digits = .ok n ↔ digits.length ≤ digitLimit ∧ numeral digits = n := by
  unfold readDigits
  split <;> simp <;> omega

theorem readDigits_eq_error_iff {digits : List Char} {e : DigitError} :
    readDigits digits = .error e ↔
      digitLimit < digits.length ∧ e = .unreadable digits.length := by
  unfold readDigits
  split
  · next h => simp [h, eq_comm]
  · next h => simp [h]

theorem writeInteger_of_isWritable {n : Int} (h : IsWritable n) :
    writeInteger n = .ok (toString n) := if_pos h

theorem writeInteger_of_not_isWritable {n : Int} (h : ¬ IsWritable n) :
    writeInteger n = .error .unwritable := if_neg h

theorem writeInteger_eq_error_iff {n : Int} {e : DigitError} :
    writeInteger n = .error e ↔ ¬ IsWritable n ∧ e = .unwritable := by
  unfold writeInteger
  split
  · next h => simp [h]
  · next h => simp [h, eq_comm]

/-- The integers that are written, by their size. -/
theorem isWritable_iff {n : Int} : IsWritable n ↔ n.natAbs < Nat.pow 10 digitLimit := by
  have hpos : 0 < digitLimit := by decide
  unfold IsWritable
  generalize digitLimit = limit at hpos ⊢
  exact Nat.length_toDigits_le_iff (by decide) hpos

/-- The least integer above zero that is not written. -/
theorem not_isWritable_pow : ¬ IsWritable (Nat.pow 10 digitLimit : Nat) := by
  rw [isWritable_iff, Int.natAbs_natCast]
  exact Nat.lt_irrefl _

end Reflow.Text
