import RowPlan.Output.Column

/-!
# Schemas of tables

The schema of a table lists for every column the types that its values have, columns and types both
in the order of first occurrence. It is permissive: no column is required and others are allowed.
-/

namespace RowPlan.Schema

/-- The types of values; a number equal to an integer is an integer. -/
inductive ValueType where
  | null
  | boolean
  | integer
  | number
  | string
  | array
  | object
deriving DecidableEq

/-- The name of a type. -/
def ValueType.name : ValueType → String
  | .null => "null"
  | .boolean => "boolean"
  | .integer => "integer"
  | .number => "number"
  | .string => "string"
  | .array => "array"
  | .object => "object"

/-- The type of a value. -/
def typeOf : Value → ValueType
  | .null => .null
  | .bool _ => .boolean
  | .num n => if n.isWhole then .integer else .number
  | .str _ => .string
  | .arr _ => .array
  | .obj _ => .object

/-- The values of a column, top to bottom; rows without the field have none. -/
def valuesAt (rows : List Row) (column : String) : List Value := rows.filterMap (·.find? column)

/-- The types of a column in the order of first occurrence. -/
def typesAt (rows : List Row) (column : String) : List ValueType :=
  ((valuesAt rows column).map typeOf).eraseDups

/-- The columns of a table with their types. -/
def infer (rows : List Row) : List (String × List ValueType) :=
  (Output.columns rows).map fun column => (column, typesAt rows column)

/-- The form in which a property lists its types: the name itself if there is only one. -/
def propertyType : List ValueType → Value
  | [only] => .str only.name
  | types => .ofStrings (types.map ValueType.name)

/-- The draft of the schema language in use. -/
def draft : String := "https://json-schema.org/draft/2020-12/schema"

/-- The schema of a table as a JSON document. -/
def document (rows : List Row) : Value :=
  let properties := (infer rows).map fun (column, types) =>
    (column, Value.obj [("type", propertyType types)])
  .obj [("$schema", .str draft), ("type", .str "array"),
    ("items", .obj [("type", .str "object"), ("properties", .obj properties),
      ("additionalProperties", .bool true)])]

end RowPlan.Schema
