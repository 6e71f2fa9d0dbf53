import Reflow.Binary64

/-!
# Checked arithmetic

The operations on doubles have a result for all operands, but some of these results stand in for
none: an integer past all doubles becomes infinite, a quotient by zero infinite or undefined. The
checked operations refuse such operands.

* `Checked.ofInt`, `Checked.div`, `Checked.truncate`: the operations that refuse.
* `ArithmeticError`: what they refuse, and the message for it.
-/

namespace Reflow

/-- Why an operation has no result. -/
inductive ArithmeticError where
  | integerTooLarge
  | zeroDivisor
  | infiniteInteger
  | undefinedInteger
deriving DecidableEq, Repr

/-- The message for an operation without a result. -/
def ArithmeticError.message : ArithmeticError → String
  | integerTooLarge => "int too large to convert to float"
  | zeroDivisor => "float division by zero"
  | infiniteInteger => "cannot convert float infinity to integer"
  | undefinedInteger => "cannot convert float NaN to integer"

namespace Binary64.Checked

/-- The nearest double to an integer, which must be finite. -/
def ofInt (n : Int) : Except ArithmeticError Binary64 :=
  if (Binary64.ofInt n).isFinite then .ok (Binary64.ofInt n) else .error .integerTooLarge

/-- The quotient by a number other than zero. -/
def div (a b : Binary64) : Except ArithmeticError Binary64 :=
  if b.isZero then .error .zeroDivisor else .ok (a.div b)

/-- The integer part of a finite number. -/
def truncate : Binary64 → Except ArithmeticError Int
  | .nan => .error .undefinedInteger
  | .infinite _ => .error .infiniteInteger
  | .finite negative units => .ok (signedUnits negative (units / unitsPerOne))

theorem ofInt_of_isFinite {n : Int} (h : (Binary64.ofInt n).isFinite) :
    ofInt n = .ok (Binary64.ofInt n) := if_pos h

theorem div_of_ne_zero {b : Binary64} (h : b.isZero = false) (a : Binary64) :
    div a b = .ok (a.div b) := by
  rw [div, h, if_neg Bool.false_ne_true]

end Binary64.Checked

end Reflow
