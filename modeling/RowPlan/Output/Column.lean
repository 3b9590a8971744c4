import RowPlan.Json.Writer
import RowPlan.Value.Display

/-!
# Columns and cells

Rows need not have the same fields. The columns of a table are all field names in the order in which
they first occur, and every row has a cell in every column: empty if the field is absent or null, a
number or a text as it is, and the text of any other value. There is no such text if the value holds an
integer with too many digits.
-/

namespace RowPlan.Output

/-- The columns of a table: every field name once, in the order of first occurrence. -/
def columns (rows : List Row) : List String := (rows.flatMap Row.keys).eraseDups

/-- Whether a value is neither an array nor an object. -/
def isScalar : Value → Bool
  | .arr _ => false
  | .obj _ => false
  | _ => true

/-- The text of an item in a cell that lists several. -/
def itemText : Value → Except TextError String
  | .null => .ok ""
  | .bool b => .ok (Value.boolText b)
  | value => value.text

/-- A value as the content of a cell. An array that holds neither arrays nor objects lists its items;
other arrays, and objects, are written as JSON. -/
def cell : Value → Except TextError Value
  | .null => .ok (.str "")
  | .bool b => .ok (.str (Value.boolText b))
  | .arr items =>
    if items.all isScalar then do
      let texts ← items.mapM itemText
      .ok (.str (", ".intercalate texts))
    else (Json.write (.arr items)).map .str
  | .obj members => (Json.write (.obj members)).map .str
  | value => .ok value

/-- The cell of a row in a column. -/
def cellAt (row : Row) (column : String) : Except TextError Value :=
  cell ((row.find? column).getD .null)

/-- A row with exactly the given columns, in order. -/
def flatten (columns : List String) (row : Row) : Except TextError Row :=
  columns.mapM fun column => (cellAt row column).map fun cell => (column, cell)

end RowPlan.Output
