import Reflow.Binary64

/-!
# Decimal texts of doubles

* `shortest?` gives the fewest decimal digits that only this double is nearest to, and of those the
  decimal closest to the number.
* `toText` writes these digits: positionally for exponents from `-4` to `15` and with a fraction,
  else with an exponent of at least two digits.
* `toFixed` writes a number with a fixed count of decimal places, a half going to the even one.
-/

namespace Reflow.Binary64

/-! ## The fewest digits -/

/-- The position of the decimal point before the first digit: `10 ^ (k - 1) ≤ x < 10 ^ k` for `x`
of so many units, at least one. -/
def decimalPoint (units : Nat) : Int :=
  (Nat.toDigits 10 (units * tenPow 400 / unitsPerOne)).length - 400

/-- The quotient `x / 10 ^ place` for `x` of `halves` half units, as a fraction. -/
def atPlace (halves : Nat) (place : Int) : Nat × Nat :=
  if 0 ≤ place then (halves, 2 * unitsPerOne * tenPow place.toNat)
  else (halves * tenPow (-place).toNat, 2 * unitsPerOne)

/-- Half units from a finite double to the midpoints of the gaps below and above it. -/
def halfGaps (units : Nat) : Nat × Nat :=
  let step := twoPow (droppedBits units)
  (if 1 < step ∧ units = step * twoPow (precision - 1) then step / 2 else step, step)

/-- Whether `digits * 10 ^ place` rounds to the double of so many units. -/
def readsBack (units digits : Nat) (place : Int) : Bool :=
  let (below, above) := halfGaps units
  let (low, lowDen) := atPlace (2 * units - below) place
  let (high, highDen) := atPlace (2 * units + above) place
  let even := units / twoPow (droppedBits units) % 2 = 0
  (low < digits * lowDen || even && low == digits * lowDen)
    && (digits * highDen < high || even && digits * highDen == high)

/-- The decimal of the given place nearest to the number, out of those that round to it. -/
def nearest? (units : Nat) (place : Int) : Option Nat :=
  let (num, den) := atPlace (2 * units) place
  let down := num / den
  let up := down + 1
  match readsBack units down place, readsBack units up place with
  | true, true => some (roundDiv num den)
  | true, false => some down
  | false, true => some up
  | false, false => none

/-- Digits without their trailing zeros, and the place of the last one. -/
def stripZeros : Nat → Nat → Int → Nat × Int
  | 0, digits, place => (digits, place)
  | fuel + 1, digits, place =>
    if digits ≠ 0 ∧ digits % 10 = 0 then stripZeros fuel (digits / 10) (place + 1)
    else (digits, place)

/-- The fewest decimal digits that read back as the double of so many units, at least one, and the
place of the last digit. -/
def shortest? (units : Nat) : Option (Nat × Int) :=
  let point := decimalPoint units
  (List.range 17).findSome? fun n =>
    let place := point - (n + 1 : Nat)
    (nearest? units place).map fun digits => stripZeros 18 digits place

/-! ## Layout -/

/-- An exponent with its sign and at least two digits. -/
def exponentText (exponent : Int) : String :=
  let digits := toString exponent.natAbs
  (if exponent < 0 then "-" else "+") ++ (if digits.length < 2 then "0" ++ digits else digits)

/-- The digits with the decimal point in front of the digit number `point`. -/
def layout (digits : List Char) (point : Int) : String :=
  if -4 < point ∧ point ≤ 16 then
    if point ≤ 0 then "0." ++ String.ofList (List.replicate (-point).toNat '0' ++ digits)
    else
      let whole := digits.take point.toNat
      let zeros := List.replicate (point.toNat - whole.length) '0'
      let fraction := digits.drop point.toNat
      String.ofList (whole ++ zeros) ++ "."
        ++ if fraction.isEmpty then "0" else String.ofList fraction
  else
    let fraction := digits.drop 1
    String.ofList (digits.take 1)
      ++ (if fraction.isEmpty then "" else "." ++ String.ofList fraction)
      ++ "e" ++ exponentText (point - 1)

/-- The shortest decimal text that reads back as the number. -/
def toText : Binary64 → String
  | .nan => "nan"
  | .infinite negative => if negative then "-inf" else "inf"
  | .finite negative units =>
    let sign := if negative then "-" else ""
    match if units = 0 then none else shortest? units with
    | none => sign ++ "0.0"
    | some (digits, place) =>
      let shown := Nat.toDigits 10 digits
      sign ++ layout shown (shown.length + place)

/-- The number with the given count of decimal places. -/
def toFixed (places : Nat) : Binary64 → String
  | .nan => "nan"
  | .infinite negative => if negative then "-inf" else "inf"
  | .finite negative units =>
    let scaled := roundDiv (units * tenPow places) unitsPerOne
    let digits := toString (scaled % tenPow places)
    let fraction := String.ofList (List.replicate (places - digits.length) '0') ++ digits
    (if negative then "-" else "") ++ toString (scaled / tenPow places)
      ++ if places = 0 then "" else "." ++ fraction

end Reflow.Binary64
