/-!
# Double precision numbers

A finite double is a sign and a whole number of units, the unit being the least positive double
`2 ^ -1074`. So every finite double is an integer, the order of doubles is the order of integers,
and every operation computes an exact fraction of units and rounds it once.

* `round` is the nearest double to a fraction of units, a tie going to the even neighbour and a
  number past the greatest double to infinity.
* `ofInt`, `ofDecimal`: the nearest doubles to integers and to decimal numbers.
* `mul`, `div`, `sub`, `lt`: arithmetic and order, with `nan` unordered.
* `truncate?`: the integer part.
* `bits`: the interchange format of 64 bits.
-/

namespace Reflow

/-- A double precision number. A finite one is `units * 2 ^ -1074` with a sign. -/
inductive Binary64 where
  | nan
  | infinite (negative : Bool)
  | finite (negative : Bool) (units : Nat)
deriving DecidableEq, Repr

namespace Binary64

instance : Inhabited Binary64 := ⟨.finite false 0⟩

/-- A power of two. -/
def twoPow (n : Nat) : Nat := Nat.pow 2 n

/-- A power of ten. -/
def tenPow (n : Nat) : Nat := Nat.pow 10 n

/-- The number of units in one. -/
def unitsPerOne : Nat := twoPow 1074

/-- The number of binary digits that a double keeps. -/
def precision : Nat := 53

/-- The first count of units past the finite doubles. -/
def unitsLimit : Nat := twoPow 2098

/-! ## Rounding -/

/-- `num / den` rounded to the nearest integer, a half to the even neighbour. -/
def roundDiv (num den : Nat) : Nat :=
  let quotient := num / den
  let twice := 2 * (num % den)
  if twice < den then quotient
  else if den < twice then quotient + 1
  else quotient + quotient % 2

/-- How many low binary digits of a count of units a double drops. -/
def droppedBits (units : Nat) : Nat := units.log2 + 1 - precision

/-- The nearest double to `num / den` units. -/
def round (negative : Bool) (num den : Nat) : Binary64 :=
  let step := twoPow (droppedBits (num / den))
  let units := roundDiv num (den * step) * step
  if units < unitsLimit then .finite negative units else .infinite negative

/-- The nearest double to an integer. -/
def ofInt (n : Int) : Binary64 := round (n < 0) (n.natAbs * unitsPerOne) 1

/-- The nearest double to a natural number. -/
def ofNat (n : Nat) : Binary64 := ofInt n

/-- The nearest double to `digits * 10 ^ exponent`. The guards keep the powers of ten small: past
them the number is over the greatest double, or under half of the least one. -/
def ofDecimal (negative : Bool) (digits : Nat) (exponent : Int) : Binary64 :=
  let places : Int := (Nat.toDigits 10 digits).length
  if digits = 0 then .finite negative 0
  else if 310 < places + exponent then .infinite negative
  else if places + exponent < -330 then .finite negative 0
  else if 0 ≤ exponent then round negative (digits * tenPow exponent.toNat * unitsPerOne) 1
  else round negative (digits * unitsPerOne) (tenPow (-exponent).toNat)

/-! ## Order -/

/-- Whether the number is neither infinite nor undefined. -/
def isFinite : Binary64 → Bool
  | .finite _ _ => true
  | _ => false

/-- Whether the number is zero, of either sign. -/
def isZero : Binary64 → Bool
  | .finite _ units => units == 0
  | _ => false

/-- The signed number of units. -/
def signedUnits (negative : Bool) (units : Nat) : Int := if negative then -units else units

/-- `a < b`, false if either is undefined. -/
def lt : Binary64 → Binary64 → Bool
  | .nan, _ => false
  | _, .nan => false
  | .infinite s, .infinite t => s && !t
  | .infinite s, .finite _ _ => s
  | .finite _ _, .infinite t => !t
  | .finite s m, .finite t n => signedUnits s m < signedUnits t n

/-- `a ≤ b`, false if either is undefined. -/
def le : Binary64 → Binary64 → Bool
  | .nan, _ => false
  | _, .nan => false
  | a, b => !lt b a

/-- The greater of two numbers, the first one if they cannot be compared. -/
def max (a b : Binary64) : Binary64 := if lt a b then b else a

/-! ## Arithmetic -/

/-- The product. -/
def mul : Binary64 → Binary64 → Binary64
  | .nan, _ => .nan
  | _, .nan => .nan
  | .infinite s, .infinite t => .infinite (s != t)
  | .infinite s, .finite t n => if n = 0 then .nan else .infinite (s != t)
  | .finite s m, .infinite t => if m = 0 then .nan else .infinite (s != t)
  | .finite s m, .finite t n => round (s != t) (m * n) unitsPerOne

/-- The quotient. -/
def div : Binary64 → Binary64 → Binary64
  | .nan, _ => .nan
  | _, .nan => .nan
  | .infinite _, .infinite _ => .nan
  | .infinite s, .finite t _ => .infinite (s != t)
  | .finite s _, .infinite t => .finite (s != t) 0
  | .finite s m, .finite t n =>
    if n = 0 then if m = 0 then .nan else .infinite (s != t)
    else round (s != t) (m * unitsPerOne) n

/-- The difference. It is a negative zero only for a negative zero less a positive one. -/
def sub : Binary64 → Binary64 → Binary64
  | .nan, _ => .nan
  | _, .nan => .nan
  | .infinite s, .infinite t => if s = t then .nan else .infinite s
  | .infinite s, .finite _ _ => .infinite s
  | .finite _ _, .infinite t => .infinite !t
  | .finite s m, .finite t n =>
    let difference := signedUnits s m - signedUnits t n
    if difference = 0 then .finite (s && !t && m == 0) 0
    else round (difference < 0) difference.natAbs 1

/-- The integer part, without the fraction, of a finite number. -/
def truncate? : Binary64 → Option Int
  | .finite negative units => some (signedUnits negative (units / unitsPerOne))
  | _ => none

/-! ## Interchange format -/

/-- The 64 bits of the number. -/
def bits : Binary64 → Nat
  | .nan => 0x7FF8000000000000
  | .infinite negative => (if negative then twoPow 63 else 0) + 0x7FF0000000000000
  | .finite negative units =>
    let dropped := droppedBits units
    let magnitude :=
      if units < twoPow 52 then units else dropped * twoPow 52 + units / twoPow dropped
    (if negative then twoPow 63 else 0) + magnitude

end Binary64

end Reflow
