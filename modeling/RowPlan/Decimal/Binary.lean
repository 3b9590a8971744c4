/-!
# Doubles as exact numbers

Every finite double is a whole multiple of the smallest positive one, so its exact value is an
integer count of these units. A quotient of natural numbers is rounded to the nearest double, a tie
going to the even mantissa; `nearest?` has no result when the quotient lies beyond the largest
double.
-/

namespace RowPlan.Decimal

/-- The number of units in one: the smallest positive double is `1 / unitsPerOne`. -/
def unitsPerOne : Nat := 1 <<< 1074

/-- A double taken apart. A finite one is `mantissa * 2 ^ shift` units. -/
inductive Parts where
  | nan
  | infinite (negative : Bool)
  | finite (negative : Bool) (mantissa shift : Nat)

/-- Take a double apart. -/
def parts (x : Float) : Parts :=
  let bits := x.toBits.toNat
  let negative := bits >>> 63 == 1
  let exponent := (bits >>> 52) % 2048
  let fraction := bits % (1 <<< 52)
  if exponent = 2047 then
    if fraction = 0 then .infinite negative else .nan
  else if exponent = 0 then .finite negative fraction 0
  else .finite negative (fraction + (1 <<< 52)) (exponent - 1)

/-- Whether a double is neither infinite nor NaN. -/
def isFinite (x : Float) : Bool :=
  match parts x with
  | .finite .. => true
  | _ => false

/-- Whether the sign of a double is negative, zeros included. -/
def isNegative (x : Float) : Bool :=
  match parts x with
  | .finite negative _ _ => negative
  | .infinite negative => negative
  | .nan => false

/-- The exact value of a finite double in units. -/
def units? (x : Float) : Option Int :=
  match parts x with
  | .finite negative mantissa shift =>
    let magnitude : Int := mantissa <<< shift
    some (if negative then -magnitude else magnitude)
  | _ => none

/-- The double with the given sign and the given bits below the sign. -/
def ofMagnitudeBits (negative : Bool) (bits : Nat) : Float :=
  Float.ofBits (UInt64.ofNat (if negative then bits + (1 <<< 63) else bits))

/-- The double zero with the given sign. -/
def zero (negative : Bool) : Float := ofMagnitudeBits negative 0

/-- The infinite double with the given sign. -/
def infinity (negative : Bool) : Float := ofMagnitudeBits negative (2047 <<< 52)

/-- The double that is not a number. -/
def notANumber : Float := ofMagnitudeBits false ((2047 <<< 52) + (1 <<< 51))

/-- A quotient rounded to the nearest natural number, a tie to the even one. -/
def roundDiv (numerator denominator : Nat) : Nat :=
  let quotient := numerator / denominator
  let remainder := numerator % denominator
  if 2 * remainder < denominator then quotient
  else if denominator < 2 * remainder then quotient + 1
  else quotient + quotient % 2

/-- The bits below the sign of the double nearest to `numerator / denominator`, given in units. A
mantissa keeps 53 bits; the bits count on across powers of two, so a mantissa that rounds up to
`2 ^ 53` needs no case of its own. -/
def nearestBits (numerator denominator : Nat) : Nat :=
  let shift := (numerator / denominator).log2 + 1 - 53
  (shift <<< 52) + roundDiv numerator (denominator <<< shift)

/-- The double nearest to a quotient of natural numbers. -/
def nearest? (negative : Bool) (numerator denominator : Nat) : Option Float :=
  let bits := nearestBits (numerator <<< 1074) denominator
  if bits < 2047 <<< 52 then some (ofMagnitudeBits negative bits) else none

/-- The double with exactly the given number of units; the caller knows that there is one. -/
def ofUnits (units : Int) : Float :=
  ofMagnitudeBits (units < 0) (nearestBits units.natAbs 1)

/-- The double nearest to an integer. -/
def ofInt? (n : Int) : Option Float := nearest? (n < 0) n.natAbs 1

/-- The remainder of the division of two finite doubles, the divisor not zero, with the sign of the
divisor. The remainder toward zero is exact; it is moved by one divisor when the signs differ. -/
def floorMod (x y : Float) : Float :=
  match units? x, units? y with
  | some dividend, some divisor =>
    let remainder := dividend.tmod divisor
    if remainder = 0 then zero (divisor < 0)
    else if (remainder < 0) = (divisor < 0) then ofUnits remainder
    else ofUnits remainder + y
  | _, _ => notANumber

end RowPlan.Decimal
