import RowPlan.Decimal.Numeral
import RowPlan.Decimal.Shortest

/-!
# Numbers

A number is an unbounded integer or a double. Numbers are compared by their exact values, so that an
integer and a double are never compared through rounding; NaN is its own equal and stands in no
order. Arithmetic stays exact on integers, follows the doubles otherwise, and has no result where
the value would not be finite.
-/

namespace RowPlan

/-- An integer or a double. -/
inductive Number where
  | int (n : Int)
  | float (x : Float)
deriving DecidableEq

/-- A place on the number line with its two ends; a finite place is counted in units of the smallest
positive double. -/
inductive Place where
  | lowest
  | finite (units : Int)
  | highest
deriving DecidableEq

namespace Place

/-- Strict order of places. -/
def lt : Place → Place → Bool
  | lowest, lowest => false
  | lowest, _ => true
  | finite a, finite b => a < b
  | finite _, highest => true
  | _, _ => false

end Place

namespace Number

instance : Inhabited Number := ⟨.int 0⟩

/-- The exact place of a number; NaN has none. -/
def place? : Number → Option Place
  | int n => some (.finite (n <<< (1074 : Nat)))
  | float x =>
    match Decimal.parts x with
    | .nan => none
    | .infinite negative => some (if negative then .lowest else .highest)
    | .finite negative mantissa shift =>
      let magnitude : Int := mantissa <<< shift
      some (.finite (if negative then -magnitude else magnitude))

/-- Numeric equality by exact value; NaN equals itself. -/
def same (a b : Number) : Bool := a.place? == b.place?

/-- Strict order by exact value; NaN is in order with nothing. -/
def lt (a b : Number) : Bool :=
  match a.place?, b.place? with
  | some p, some q => p.lt q
  | _, _ => false

/-- Whether a number is neither infinite nor NaN. -/
def isFinite : Number → Bool
  | int _ => true
  | float x => Decimal.isFinite x

/-- Whether a number is zero; the negative zero is. -/
def isZero (a : Number) : Bool := a.same (.int 0)

/-- The integer that a number is exactly equal to. -/
def toInt? : Number → Option Int
  | int n => some n
  | float x =>
    match Decimal.units? x with
    | some units => if units % Decimal.unitsPerOne = 0 then some (units / Decimal.unitsPerOne) else none
    | none => none

/-- Whether a number is equal to an integer. -/
def isWhole (a : Number) : Bool := a.toInt?.isSome

/-- The double nearest to a number; an integer beyond the largest double has none. -/
def toFloat? : Number → Option Float
  | int n => Decimal.ofInt? n
  | float x => some x

/-- A number, unless it is infinite or NaN. -/
def finite? (a : Number) : Option Number := if a.isFinite then some a else none

/-- Apply an exact operation to two integers and an operation on doubles otherwise. -/
def combine? (exact : Int → Int → Number) (rounded : Float → Float → Float) (a b : Number) :
    Option Number :=
  match a, b with
  | int m, int n => some (exact m n)
  | _, _ =>
    match a.toFloat?, b.toFloat? with
    | some x, some y => finite? (float (rounded x y))
    | _, _ => none

/-- Sum of two numbers. -/
def add? (a b : Number) : Option Number := combine? (fun m n => int (m + n)) (· + ·) a b

/-- Difference of two numbers. -/
def sub? (a b : Number) : Option Number := combine? (fun m n => int (m - n)) (· - ·) a b

/-- Product of two numbers. -/
def mul? (a b : Number) : Option Number := combine? (fun m n => int (m * n)) (· * ·) a b

/-- Quotient of two numbers, always a double and correctly rounded; division by zero has no result. -/
def div? (a b : Number) : Option Number :=
  if b.isZero then none
  else
    match a, b with
    | int m, int n =>
      (Decimal.nearest? (decide (m < 0) != decide (n < 0)) m.natAbs n.natAbs).map float
    | _, _ =>
      match a.toFloat?, b.toFloat? with
      | some x, some y => finite? (float (x / y))
      | _, _ => none

/-- Remainder with the sign of the divisor; a zero divisor has no result. -/
def mod? (a b : Number) : Option Number :=
  if b.isZero then none else combine? (fun m n => int (m.fmod n)) Decimal.floorMod a b

/-- The opposite number. -/
def neg : Number → Number
  | int n => int (-n)
  | float x => float (-x)

/-- How infinite and undefined numbers are spelled in texts meant for reading. -/
def plainSpelling : Decimal.Spelling := ⟨"inf", "nan"⟩

/-- The text of a number: integers in decimal, doubles in their shortest form. -/
def text (a : Number) : Except TextError String :=
  match a with
  | int n => Decimal.writeInteger n
  | float x => .ok (Decimal.text plainSpelling x)

end Number

end RowPlan
