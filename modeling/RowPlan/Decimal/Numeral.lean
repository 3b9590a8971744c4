import RowPlan.Decimal.Binary
import RowPlan.Text.Folding

/-!
# Numerals

Numerals may use the decimal digits of any script, single underscores between digits, a sign, and
blanks around them. An integer of more than `digitLimit` digits is refused, so that the conversions
between integers and texts stay cheap: its numeral is not read, and it is not written either.
-/

namespace RowPlan

/-- Why there is no text: an integer has too many digits. -/
inductive TextError where
  | tooManyDigits
deriving DecidableEq

namespace Decimal

/-- The most digits an integer may have where it is read or written. -/
def digitLimit : Nat := 4300

/-- Blanks that may surround a numeral: all blanks but the four ASCII separators. -/
def isNumeralBlank (c : Char) : Bool := Text.isBlank c && !(28 ≤ c.toNat && c.toNat ≤ 31)

/-- What an integer numeral reads as. -/
inductive IntegerReading where
  | value (n : Int)
  | tooLong (digits : Nat)
  | invalid

/-- What is reported of an integer with too many digits, `found` being said of its digits. -/
def limitMessage (found : String) : String :=
  s!"Exceeds the limit ({digitLimit} digits) for integer string conversion" ++ found
    ++ "; use sys.set_int_max_str_digits() to increase the limit"

/-- What is reported of an integer numeral with too many digits. -/
def tooLongMessage (digits : Nat) : String := limitMessage s!": value has {digits} digits"

/-- The optional sign at the start of a numeral, and the rest. -/
def splitSign : List Char → Bool × List Char
  | '-' :: rest => (true, rest)
  | '+' :: rest => (false, rest)
  | rest => (false, rest)

/-- Remove the underscores that stand between two digits; `none` when an underscore stands
elsewhere. `afterDigit` says whether a digit comes before. -/
def dropUnderscores (afterDigit : Bool) : List Char → Option (List Char)
  | [] => some []
  | '_' :: c :: rest =>
    if afterDigit && c.isDigit then (dropUnderscores true rest).map (c :: ·) else none
  | '_' :: [] => none
  | c :: rest => (dropUnderscores c.isDigit rest).map (c :: ·)

/-- Decimal digits of any script written as ASCII digits. -/
def asciiDigits (text : List Char) : List Char :=
  text.map fun c =>
    match Text.decimalDigit? c with
    | some value => Char.ofNat ('0'.toNat + value)
    | none => c

/-- The number written by a list of ASCII digits, continuing from `value`. -/
def digitsValue (value : Nat) (digits : List Char) : Nat :=
  digits.foldl (fun total c => total * 10 + (c.toNat - '0'.toNat)) value

/-- Read an integer numeral. -/
def readInteger (text : String) : IntegerReading :=
  let (negative, body) := splitSign (asciiDigits (Text.trimWhere isNumeralBlank text.toList))
  let span := body.takeWhile fun c => c.isDigit || c == '_'
  match dropUnderscores false span with
  | none => .invalid
  | some digits =>
    if digitLimit < digits.length then .tooLong digits.length
    else if digits.isEmpty || span.length < body.length then .invalid
    else
      let magnitude : Int := digitsValue 0 digits
      .value (if negative then -magnitude else magnitude)

/-- The decimal form of an integer, unless it has too many digits. -/
def writeInteger (n : Int) : Except TextError String :=
  if digitLimit < (Nat.toDigits 10 n.natAbs).length then .error .tooManyDigits
  else .ok (toString n)

/-- The double nearest to `digits * 10 ^ exponent`; infinite beyond the largest double. Exponents
far outside the range of doubles are settled by size alone. -/
def ofScientific (negative : Bool) (digits : Nat) (exponent : Int) : Float :=
  let size : Int := (Nat.toDigits 10 digits).length + exponent
  if digits = 0 || size < -400 then zero negative
  else if 400 < size then infinity negative
  else
    let rounded :=
      if exponent < 0 then nearest? negative digits (Nat.pow 10 exponent.natAbs)
      else nearest? negative (digits * Nat.pow 10 exponent.natAbs) 1
    rounded.getD (infinity negative)

/-- The exponent part of a decimal numeral: absent, or a mark, an optional sign and digits up to the
end of the text. -/
def readExponent? : List Char → Option Int
  | [] => some 0
  | mark :: rest =>
    let (negative, digits) := splitSign rest
    if (mark == 'e' || mark == 'E') && !digits.isEmpty && digits.all Char.isDigit then
      let magnitude : Int := digitsValue 0 digits
      some (if negative then -magnitude else magnitude)
    else none

/-- Read a decimal numeral without sign: digits with an optional point among or around them, and an
optional exponent. -/
def readUnsigned? (negative : Bool) (body : List Char) : Option Float :=
  let whole := body.takeWhile Char.isDigit
  let afterWhole := body.dropWhile Char.isDigit
  let (fraction, tail) :=
    match afterWhole with
    | '.' :: rest => (rest.takeWhile Char.isDigit, rest.dropWhile Char.isDigit)
    | rest => ([], rest)
  if whole.isEmpty && fraction.isEmpty then none
  else
    (readExponent? tail).map fun exponent =>
      ofScientific negative (digitsValue (digitsValue 0 whole) fraction)
        (exponent - fraction.length)

/-- Read a decimal numeral, or one of the words for infinity and NaN. -/
def readFloat? (text : String) : Option Float :=
  match dropUnderscores false (asciiDigits (Text.trimWhere isNumeralBlank text.toList)) with
  | none => none
  | some plain =>
    let (negative, body) := splitSign plain
    let word := String.ofList (body.map Char.toLower)
    if word == "inf" || word == "infinity" then some (infinity negative)
    else if word == "nan" then some notANumber
    else readUnsigned? negative body

end Decimal

/-- The wording of a text error. -/
def TextError.message : TextError → String
  | .tooManyDigits => Decimal.limitMessage ""

/-- Why a numeral could not be read. -/
inductive NumeralError where
  | notInteger (text : String)
  | notDecimal (text : String)
  | tooLong (digits : Nat)
deriving DecidableEq

/-- The wording of a numeral error. Of a long text that is no integer only the start is quoted. -/
def NumeralError.message : NumeralError → String
  | .notInteger text =>
    "invalid literal for int() with base 10: " ++ String.ofList ((Text.quoted text).toList.take 200)
  | .notDecimal text => "could not convert string to float: " ++ Text.quoted text
  | .tooLong digits => Decimal.tooLongMessage digits

/-- The integer of a numeral, or what to report. -/
def Decimal.integer (text : String) : Except NumeralError Int :=
  match Decimal.readInteger text with
  | .value n => .ok n
  | .tooLong digits => .error (.tooLong digits)
  | .invalid => .error (.notInteger text)

end RowPlan
