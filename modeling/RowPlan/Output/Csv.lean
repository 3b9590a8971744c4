import RowPlan.Decimal.Numeral
import RowPlan.Output.Column

/-!
# Comma-separated values

The text of a table with a header. Every record ends with a carriage return and a line feed; its
fields are separated by commas, and a field that holds a comma, a quote or a line break stands
between quotes, with the quotes in it doubled. A record whose only field is empty is written as an
empty quoted field, to tell it from the record without fields, which is an empty line.

All cells of a table are made before the first row is written. A number in a cell is only turned into
text when its record is written: one with too many digits stops the writing at the rows before it.
-/

namespace RowPlan.Csv

/-- Whether a character can only stand in a quoted field. -/
def isSpecial (c : Char) : Bool := c == ',' || c == '"' || c == '\r' || c == '\n'

/-- One character inside quotes: a quote is doubled. -/
def quoteChar (c : Char) : List Char := if c = '"' then ['"', '"'] else [c]

/-- A field between quotes. -/
def quotedField (field : List Char) : List Char := '"' :: (field.flatMap quoteChar ++ ['"'])

/-- The written form of a field. -/
def writeField (field : String) : List Char :=
  if field.toList.any isSpecial then quotedField field.toList else field.toList

/-- The fields of a record with commas between them. -/
def joinFields : List (List Char) → List Char
  | [] => []
  | [field] => field
  | field :: rest => field ++ ',' :: joinFields rest

/-- A record with its line end. -/
def writeRecord (fields : List String) : List Char :=
  (if fields = [""] then quotedField [] else joinFields (fields.map writeField)) ++ ['\r', '\n']

/-- The record of a row of cells. -/
def rowRecord (cells : Row) : Except TextError String := do
  let fields ← cells.mapM fun cell => cell.2.text
  .ok (String.ofList (writeRecord fields))

/-- The records of some rows of cells, one after the other. -/
def draftRows : List Row → Draft
  | [] => .piece ""
  | cells :: rest => .ofText (rowRecord cells) ++ draftRows rest

/-- A table as it is written: the columns, and the cells of every row. -/
def draft (rows : List Row) : Draft :=
  let columns := Output.columns rows
  .piece (String.ofList (writeRecord columns)) ++
    match rows.mapM (Output.flatten columns) with
    | .ok flat => draftRows flat
    | .error error => .ofText (.error error)

/-- The text of a table. -/
def write (rows : List Row) : Except TextError String := (draft rows).toText

/-- The text of the first rows of a table; a negative number of rows counts as none. -/
def preview (limit : Int) (rows : List Row) : Except TextError String :=
  write (rows.take limit.toNat)

/-- Why a value cannot be a number of rows. -/
inductive LimitError where
  | numeral (error : NumeralError)
  | notANumber
  | infinite
  | notNumeric
deriving DecidableEq

/-- The wording of a limit error. -/
def LimitError.message : LimitError → String
  | .numeral error => error.message
  | .notANumber => "cannot convert float NaN to integer"
  | .infinite => "cannot convert float infinity to integer"
  | .notNumeric => "not a number of rows"

/-- The number of rows that a value stands for; the fraction of a number is dropped. -/
def limitOf : Value → Except LimitError Int
  | .num (.int n) => .ok n
  | .num (.float x) =>
    match Decimal.parts x with
    | .nan => .error .notANumber
    | .infinite _ => .error .infinite
    | .finite negative mantissa shift =>
      let whole : Int := (mantissa <<< shift) / Decimal.unitsPerOne
      .ok (if negative then -whole else whole)
  | .bool b => .ok (if b then 1 else 0)
  | .str s => (Decimal.integer s).mapError .numeral
  | _ => .error .notNumeric

end RowPlan.Csv
