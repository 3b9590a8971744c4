import RowPlan.Decimal.Binary

/-!
# Shortest decimal text of a double

The text of a finite double has the fewest significant digits that read back as the same double,
and of those the digits nearest to its exact value. Exponents from -4 to 15 are written
positionally, with at least one digit after the point; others in scientific notation with a signed
exponent of at least two digits.
-/

namespace RowPlan.Decimal

/-- The number `digits * 10 ^ exponent`. -/
structure Scientific where
  digits : Nat
  exponent : Int

/-- The number of decimal digits of a positive natural number. -/
def digitCount (n : Nat) : Nat := (Nat.toDigits 10 n).length

/-- The exponent of the leading decimal digit of a positive quotient. -/
def leadingExponent (numerator denominator : Nat) : Int :=
  if denominator ≤ numerator then (digitCount (numerator / denominator) : Int) - 1
  else
    let places := digitCount (denominator / numerator)
    if numerator * Nat.pow 10 (places - 1) = denominator then 1 - (places : Int) else -(places : Int)

/-- The reals that round to one double, as multiples `lower` to `upper` of a quarter of its last
mantissa place, its own value being `4 * mantissa` of them. The ends belong to it exactly when its
mantissa is even. -/
structure RoundingInterval where
  mantissa : Nat
  lower : Nat
  upper : Nat
  closed : Bool

/-- The interval of a positive double: half a place to each side, but a quarter below a power of
two, where the neighbour below is half as far. -/
def RoundingInterval.ofMantissa (mantissa shift : Nat) : RoundingInterval where
  mantissa := mantissa
  lower := 4 * mantissa - (if mantissa = 1 <<< 52 ∧ 0 < shift then 1 else 2)
  upper := 4 * mantissa + 2
  closed := mantissa % 2 = 0

/-- Whether a natural number, scaled like the double's value `numerator / denominator`, lies in the
interval. -/
def RoundingInterval.contains (interval : RoundingInterval) (numerator denominator candidate : Nat) :
    Bool :=
  let position := candidate * denominator * (4 * interval.mantissa)
  if interval.closed then
    interval.lower * numerator ≤ position && position ≤ interval.upper * numerator
  else interval.lower * numerator < position && position < interval.upper * numerator

/-- The nearest point of the grid of multiples of `10 ^ exponent` that lies in the interval, if one
of the two neighbours of the value does; a tie goes to the even neighbour. -/
def gridPoint? (interval : RoundingInterval) (numerator denominator : Nat) (exponent : Int) :
    Option Scientific :=
  let scaledNumerator := if exponent < 0 then numerator * Nat.pow 10 exponent.natAbs else numerator
  let scaledDenominator :=
    if exponent < 0 then denominator else denominator * Nat.pow 10 exponent.natAbs
  let below := scaledNumerator / scaledDenominator
  let nearer := roundDiv scaledNumerator scaledDenominator
  let farther := if nearer = below then below + 1 else below
  if interval.contains scaledNumerator scaledDenominator nearer then some ⟨nearer, exponent⟩
  else if interval.contains scaledNumerator scaledDenominator farther then some ⟨farther, exponent⟩
  else none

/-- Move trailing zeros of the digits into the exponent; `limit` bounds the number of moves. -/
def Scientific.normalize (limit : Nat) (number : Scientific) : Scientific :=
  match limit with
  | 0 => number
  | limit + 1 =>
    if number.digits % 10 = 0 ∧ number.digits ≠ 0 then
      Scientific.normalize limit ⟨number.digits / 10, number.exponent + 1⟩
    else number

/-- The shortest decimal that reads back as the positive double with the given mantissa and shift:
the first of the grids with one, two, … digits that has a point in the interval. Seventeen digits
always suffice. -/
def shortest (mantissa shift : Nat) : Scientific :=
  let numerator := mantissa <<< shift
  let interval := RoundingInterval.ofMantissa mantissa shift
  let leading := leadingExponent numerator unitsPerOne
  let found := (List.range 17).findSome? fun (count : Nat) =>
    gridPoint? interval numerator unitsPerOne (leading - count)
  (found.getD ⟨0, 0⟩).normalize 17

/-- Digits as a text, the decimal point standing after `point` of them, positionally when the
leading exponent is from -4 to 15 and scientifically otherwise. -/
def Scientific.text (number : Scientific) : String :=
  let digits := Nat.toDigits 10 number.digits
  let point : Int := digits.length + number.exponent
  if point ≤ -4 ∨ 16 < point then
    let exponent := point - 1
    let magnitude := Nat.toDigits 10 exponent.natAbs
    let fraction := if digits.length ≤ 1 then [] else '.' :: digits.drop 1
    String.ofList (digits.take 1 ++ fraction ++ ['e', if exponent < 0 then '-' else '+']
      ++ List.replicate (2 - magnitude.length) '0' ++ magnitude)
  else if point ≤ 0 then
    String.ofList (['0', '.'] ++ List.replicate point.natAbs '0' ++ digits)
  else if digits.length ≤ point.natAbs then
    String.ofList (digits ++ List.replicate (point.natAbs - digits.length) '0' ++ ['.', '0'])
  else String.ofList (digits.take point.natAbs ++ ['.'] ++ digits.drop point.natAbs)

/-- How infinite and undefined doubles are spelled. -/
structure Spelling where
  infinity : String
  notANumber : String

/-- The decimal text of a double. -/
def text (spelling : Spelling) (x : Float) : String :=
  let signed (negative : Bool) (magnitude : String) := if negative then "-" ++ magnitude else magnitude
  match parts x with
  | .nan => spelling.notANumber
  | .infinite negative => signed negative spelling.infinity
  | .finite negative 0 _ => signed negative "0.0"
  | .finite negative mantissa shift => signed negative (shortest mantissa shift).text

end RowPlan.Decimal
