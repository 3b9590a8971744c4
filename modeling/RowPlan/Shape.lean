import RowPlan.Value.Basic
import RowPlan.Text.Folding

/-!
# Shapes

Reading typed data out of JSON values. Reading goes on after a fault, so that all faults of a value
are reported, each with the path of keys and indices that leads to it. Numbers may arrive as texts
and truth values as numbers, where the meaning is clear.
-/

namespace RowPlan.Shape

/-- What is wrong with a part of a value. -/
inductive Fault where
  | missing
  | notText
  | notInteger
  | fractional
  | notIntegerText
  | integerTooLong
  | notFinite
  | notNumber
  | notNumberText
  | notBoolean
  | notBooleanText
  | notArray
  | notObject
  | notRecord (type : String)
  | negative (n : Int)
deriving DecidableEq

/-- The wording of a fault. -/
def Fault.message : Fault → String
  | .missing => "Field required"
  | .notText => "Input should be a valid string"
  | .notInteger => "Input should be a valid integer"
  | .fractional => "Input should be a valid integer, got a number with a fractional part"
  | .notIntegerText => "Input should be a valid integer, unable to parse string as an integer"
  | .integerTooLong => "Unable to parse input string as an integer, exceeded maximum size"
  | .notFinite => "Input should be a finite number"
  | .notNumber => "Input should be a valid number"
  | .notNumberText => "Input should be a valid number, unable to parse string as a number"
  | .notBoolean => "Input should be a valid boolean"
  | .notBooleanText => "Input should be a valid boolean, unable to interpret input"
  | .notArray => "Input should be a valid list"
  | .notObject => "Input should be a valid dictionary"
  | .notRecord type => s!"Input should be a valid dictionary or instance of {type}"
  | .negative n =>
    "Value error, " ++ match Decimal.writeInteger n with
      | .ok text => s!"must be >= 0, got {text}"
      | .error error => error.message

/-- A fault and the keys and indices that lead to it. -/
structure Issue where
  place : List String
  fault : Fault
deriving DecidableEq

/-- The wording of an issue. -/
def Issue.message (issue : Issue) : String :=
  if issue.place.isEmpty then issue.fault.message
  else ".".intercalate issue.place ++ ": " ++ issue.fault.message

/-- What reading gives: a value, or all issues found. -/
inductive Checked (α : Type) where
  | valid (value : α)
  | invalid (issues : List Issue)

namespace Checked

variable {α β : Type}

/-- One fault at the value itself. -/
def fault (fault : Fault) : Checked α := .invalid [⟨[], fault⟩]

/-- Apply a function to what was read. -/
def map (f : α → β) : Checked α → Checked β
  | valid value => valid (f value)
  | invalid issues => invalid issues

/-- Combine two readings; the issues of both are reported, in order. -/
def both (first : Checked (α → β)) (second : Checked α) : Checked β :=
  match first, second with
  | valid f, valid value => valid (f value)
  | valid _, invalid issues => invalid issues
  | invalid issues, valid _ => invalid issues
  | invalid issues, invalid more => invalid (issues ++ more)

/-- Go on with what was read, if it was read. -/
def andThen (reading : Checked α) (next : α → Checked β) : Checked β :=
  match reading with
  | valid value => next value
  | invalid issues => invalid issues

/-- Put the issues of a reading under a key or an index. -/
def under (key : String) : Checked α → Checked α
  | valid value => valid value
  | invalid issues => invalid (issues.map fun issue => ⟨key :: issue.place, issue.fault⟩)

/-- What was read, or the issues. -/
def toExcept : Checked α → Except (List Issue) α
  | valid value => .ok value
  | invalid issues => .error issues

end Checked

/-- A text. -/
def text : Value → Checked String
  | .str s => .valid s
  | _ => .fault .notText

/-- A text in lower case. -/
def lowerText (value : Value) : Checked String := (text value).map Text.lower

/-- A value or null. -/
def optional {α : Type} (read : Value → Checked α) : Value → Checked (Option α)
  | .null => .valid none
  | value => (read value).map some

/-- Leading zeros dropped from a numeral without sign, down to its last digit; underscores between
them go too. -/
def dropLeadingZeros : List Char → Option (List Char)
  | '0' :: rest => go '0' rest
  | c :: rest => if '1' ≤ c ∧ c ≤ '9' then some (c :: rest) else none
  | [] => none
where
  go (last : Char) : List Char → Option (List Char)
    | [] => some [last]
    | c :: rest =>
      if c = '0' ∨ c = '_' then go c rest
      else if '1' ≤ c ∧ c ≤ '9' then some (c :: rest)
      else if c = '.' then some (last :: c :: rest)
      else none

/-- A fraction of zeros dropped from a numeral. -/
def dropZeroFraction (numeral : List Char) : List Char :=
  let fraction := numeral.dropWhile (· != '.')
  if !fraction.isEmpty && (fraction.drop 1).all (· == '0') then numeral.takeWhile (· != '.')
  else numeral

/-- The integer that a text writes: digits after an optional sign, with blanks around, single
underscores between digits and a fraction of zeros allowed. -/
def integerText (s : String) : Checked Int :=
  let trimmed := Text.trimWhere Decimal.isNumeralBlank s.toList
  let (negative, unsigned) := Decimal.splitSign trimmed
  match (dropLeadingZeros unsigned).bind fun numeral =>
      Decimal.dropUnderscores false (dropZeroFraction numeral) with
  | none => .fault .notIntegerText
  | some digits =>
    if digits.isEmpty || !digits.all Char.isDigit then .fault .notIntegerText
    else if Decimal.digitLimit < digits.length then .fault .integerTooLong
    else
      let magnitude : Int := Decimal.digitsValue 0 digits
      .valid (if negative then -magnitude else magnitude)

/-- The first integer beyond a signed machine word of 64 bits. -/
def wordBound : Int := 0x8000000000000000

/-- The integer that a double equals, if it fits a machine word. -/
def wholeDouble (x : Float) : Checked Int :=
  if !Decimal.isFinite x then .fault .notFinite
  else
    match (Number.float x).toInt? with
    | none => .fault .fractional
    | some n => if -wordBound < n && n < wordBound then .valid n else .fault .integerTooLong

/-- An integer: also a truth value, a whole double, or a text that writes one. -/
def integer : Value → Checked Int
  | .num (.int n) => .valid n
  | .num (.float x) => wholeDouble x
  | .bool b => .valid (if b then 1 else 0)
  | .str s => integerText s
  | _ => .fault .notInteger

/-- An integer that is not negative. -/
def natural (value : Value) : Checked Int :=
  (integer value).andThen fun n => if n < 0 then .fault (.negative n) else .valid n

/-- The truth value that an integer stands for. -/
def booleanOfInt (n : Int) : Checked Bool :=
  if n = 0 then .valid false else if n = 1 then .valid true else .fault .notBooleanText

/-- A truth value: also zero or one, and the usual words for yes and no. -/
def boolean : Value → Checked Bool
  | .bool b => .valid b
  | .str s =>
    let word := String.ofList (s.toList.map Char.toLower)
    if ["0", "off", "f", "false", "n", "no"].contains word then .valid false
    else if ["1", "on", "t", "true", "y", "yes"].contains word then .valid true
    else .fault .notBooleanText
  | .num (.int n) => if -wordBound ≤ n && n < wordBound then booleanOfInt n else .fault .notBoolean
  | .num (.float x) =>
    match wholeDouble x with
    | .valid n => booleanOfInt n
    | .invalid _ => .fault .notBoolean
  | _ => .fault .notBoolean

/-- The double that a text writes in ASCII. Blanks may stand around it, or else single underscores
anywhere inside it. -/
def doubleText? (s : String) : Option Float :=
  let trimmed := Text.trimWhere Decimal.isNumeralBlank s.toList
  let plain := s.toList.filter (· != '_')
  let isBlankAt (c : Option Char) : Bool := (c.map Decimal.isNumeralBlank).getD true
  let hasStray (chars : List Char) : Bool :=
    (chars.zip (chars.drop 1)).any (· == ('_', '_')) || chars.head? == some '_'
      || chars.getLast? == some '_'
  if !trimmed.all Text.isAscii then none
  else if !trimmed.contains '_' then Decimal.readFloat? (String.ofList trimmed)
  else if hasStray s.toList || isBlankAt plain.head? || isBlankAt plain.getLast? then none
  else Decimal.readFloat? (String.ofList plain)

/-- A double: also an integer, a truth value, or a text that writes a number. -/
def double : Value → Checked Float
  | .num (.float x) => .valid x
  | .num (.int n) => .valid ((Decimal.ofInt? n).getD (Decimal.infinity (n < 0)))
  | .bool b => .valid (if b then 1 else 0)
  | .str s =>
    match doubleText? s with
    | some x => .valid x
    | none => .fault .notNumberText
  | _ => .fault .notNumber

/-- Items read one by one, each under its index. -/
def items {α : Type} (read : Value → Checked α) (index : Nat) : List Value → Checked (List α)
  | [] => .valid []
  | item :: rest =>
    (((read item).under (toString index)).map List.cons).both (items read (index + 1) rest)

/-- An array of items of one shape. -/
def array {α : Type} (read : Value → Checked α) : Value → Checked (List α)
  | .arr values => items read 0 values
  | _ => .fault .notArray

/-- An object with any members. -/
def members : Value → Checked Row
  | .obj members => .valid members
  | _ => .fault .notObject

/-- The first of some names under which an object has a member. -/
def find? (object : Row) (names : List String) : Option (String × Value) :=
  names.findSome? fun name => (object.find? name).map fun value => (name, value)

/-- A member under one of its names, with a value for when it is absent. -/
def memberOr {α : Type} (object : Row) (names : List String) (read : Value → Checked α)
    (default : α) : Checked α :=
  match find? object names with
  | some (name, value) => (read value).under name
  | none => .valid default

/-- A member under one of its names that has to be there; the first name is the one reported. -/
def member {α : Type} (object : Row) (names : List String) (read : Value → Checked α) : Checked α :=
  match find? object names with
  | some (name, value) => (read value).under name
  | none => (Checked.fault .missing).under (names.headD "")

/-- An object with certain members. -/
def record {α : Type} (type : String) (read : Row → Checked α) : Value → Checked α
  | .obj members => read members
  | _ => .fault (.notRecord type)

end RowPlan.Shape
