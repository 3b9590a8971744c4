import RowPlan.Number

/-!
# Values

A document is a tree of JSON values. Objects keep their members in the order in which they were
given; a row of a table is the member list of an object. A value that may be absent, as opposed to
null, is an `Option Value`.
-/

namespace RowPlan

/-- A JSON value. -/
inductive Value where
  | null
  | bool (b : Bool)
  | num (n : Number)
  | str (s : String)
  | arr (items : List Value)
  | obj (members : List (String × Value))

/-- The members of an object, in order; as a row of a table, its fields. -/
abbrev Row := List (String × Value)

/-- The six kinds of JSON values. -/
inductive Kind where
  | null
  | boolean
  | number
  | string
  | array
  | object
deriving DecidableEq

/-- The name of a kind. -/
def Kind.name : Kind → String
  | .null => "null"
  | .boolean => "boolean"
  | .number => "number"
  | .string => "string"
  | .array => "array"
  | .object => "object"

namespace Value

instance : Inhabited Value := ⟨.null⟩

/-- The value of an integer. -/
def ofInt (n : Int) : Value := .num (.int n)

/-- The value of a natural number. -/
def ofNat (n : Nat) : Value := .num (.int n)

/-- The array of some texts. -/
def ofStrings (texts : List String) : Value := .arr (texts.map .str)

/-- The kind of a value. -/
def kind : Value → Kind
  | null => .null
  | bool _ => .boolean
  | num _ => .number
  | str _ => .string
  | arr _ => .array
  | obj _ => .object

/-- Whether a value is a number; truth values are not. -/
def isNumber : Value → Bool
  | num _ => true
  | _ => false

/-- Whether a value is a number equal to an integer. -/
def isWhole : Value → Bool
  | num n => n.isWhole
  | _ => false

/-- Whether a value counts as given: neither null, false, zero nor empty. -/
def isGiven : Value → Bool
  | null => false
  | bool b => b
  | num n => !n.isZero
  | str s => !s.isEmpty
  | arr items => !items.isEmpty
  | obj members => !members.isEmpty

/-! ## Numbers in values

A value counts as a number when it is a finite number, or a text that reads as one. Truth values
never do. -/

/-- The number that a text reads as: an integer numeral if possible, a decimal numeral otherwise,
and nothing that is not finite. -/
def numberOfText? (s : String) : Option Number :=
  let trimmed := Text.trim s
  if trimmed.isEmpty then none
  else
    match Decimal.readInteger trimmed with
    | .value n => some (.int n)
    | _ => (Decimal.readFloat? trimmed).bind fun x => Number.finite? (.float x)

/-- The finite number that a value stands for. -/
def toNumber? : Value → Option Number
  | num n => n.finite?
  | str s => numberOfText? s
  | _ => none

/-! ## Equality

Values are equal as JSON values: numbers by exact value, arrays item by item, objects by their members
whatever the order, and values of different kinds never. -/

mutual

/-- Equality of JSON values. -/
def equal : Value → Value → Bool
  | null, null => true
  | bool a, bool b => a == b
  | num a, num b => a.same b
  | str a, str b => a == b
  | arr as, arr bs => equalItems as bs
  | obj as, obj bs => as.length == bs.length && membersWithin as bs
  | _, _ => false

/-- Equality of arrays, item by item. -/
def equalItems : List Value → List Value → Bool
  | [], [] => true
  | a :: as, b :: bs => equal a b && equalItems as bs
  | _, _ => false

/-- Whether every member of the first object has an equal member under its name in the second. -/
def membersWithin : List (String × Value) → List (String × Value) → Bool
  | [], _ => true
  | (key, a) :: rest, bs =>
    (match bs.lookup key with
    | some b => equal a b
    | none => false) && membersWithin rest bs

end

end Value

namespace Row

/-- The value of a field. -/
def find? (row : Row) (key : String) : Option Value := row.lookup key

/-- The field names of a row, in order. -/
def keys (row : Row) : List String := row.map (·.1)

/-- Whether a row has a field. -/
def has (row : Row) (key : String) : Bool := row.any (·.1 == key)

/-- Give a field a value: in its place if the row has it, at the end otherwise. -/
def set (row : Row) (key : String) (value : Value) : Row :=
  match row with
  | [] => [(key, value)]
  | (name, old) :: rest =>
    if name = key then (key, value) :: rest else (name, old) :: set rest key value

/-- Give fields their values one after the other. -/
def setAll (row : Row) (fields : List (String × Value)) : Row :=
  fields.foldl (fun row (field : String × Value) => row.set field.1 field.2) row

/-- The row of some fields: a repeated name keeps its first place and its last value. -/
def ofPairs (pairs : List (String × Value)) : Row := setAll [] pairs

end Row

end RowPlan
