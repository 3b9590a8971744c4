import RowPlan.Pointer
import RowPlan.Value.Basic

/-!
# Records

The records that a pointer names in a document, as rows. An array gives a row for every item: an
object is a row, a null is left out, and any other item becomes the only field of its row. An object
is one row, a null no row, and other values have no records.
-/

namespace RowPlan

/-- Why an operation could not succeed. -/
inductive Reason where
  | noRecordsetFound
  | wrongShape
  | planInvalid
  | planParseError
deriving DecidableEq

/-- The wire form of a reason. -/
def Reason.name : Reason → String
  | .noRecordsetFound => "NoRecordsetFound"
  | .wrongShape => "WrongShape"
  | .planInvalid => "PlanInvalid"
  | .planParseError => "PlanParseError"

/-- What there is to say about records: items that were wrapped, or left out. -/
inductive RecordNote where
  | wrapped (count : Nat)
  | skipped (count : Nat)
deriving DecidableEq

/-- The name of the only field of a wrapped item. -/
def wrappedField : String := "value"

/-- The wording of a note. -/
def RecordNote.message : RecordNote → String
  | .wrapped count => s!"{count} non-object element(s) wrapped as '{wrappedField}' rows"
  | .skipped count => s!"{count} null element(s) skipped"

/-- Why there are no records. -/
inductive RecordError where
  | wrongKind (kind : Kind)
  | notFound (path : String)
deriving DecidableEq

namespace RecordError

/-- The wording of a record error. -/
def message : RecordError → String
  | wrongKind kind =>
    s!"WrongShape: Cannot normalize {kind.name} to rows. Expected array, object, or null."
  | notFound path => s!"WrongShape: Path '{path}' not found in input"

/-- The reason of every record error. -/
def reason (_ : RecordError) : Reason := .wrongShape

end RecordError

/-- Rows, and what there is to say about them. -/
structure Records where
  rows : List Row
  notes : List RecordNote

namespace Records

/-- The row of an item, unless it is null. -/
def rowOf? : Value → Option Row
  | .obj members => some members
  | .null => none
  | value => some [(wrappedField, value)]

/-- Whether an item has to be wrapped to be a row. -/
def isWrapped : Value → Bool
  | .obj _ => false
  | .null => false
  | _ => true

/-- Whether an item is null. -/
def isNull : Value → Bool
  | .null => true
  | _ => false

/-- The rows of an array. -/
def ofArray (items : List Value) : Records where
  rows := items.filterMap rowOf?
  notes :=
    let wrapped := items.countP isWrapped
    let skipped := items.countP isNull
    (if wrapped = 0 then [] else [.wrapped wrapped])
      ++ (if skipped = 0 then [] else [.skipped skipped])

/-- The rows of a value. -/
def ofValue : Value → Except RecordError Records
  | .arr items => .ok (ofArray items)
  | .obj members => .ok ⟨[members], []⟩
  | .null => .ok ⟨[], []⟩
  | value => .error (.wrongKind value.kind)

/-- The records that a pointer names in a document. -/
def extract (document : Value) (path : String) : Except RecordError Records :=
  if Pointer.isRoot path then ofValue document
  else
    match Pointer.resolve document path with
    | some value => ofValue value
    | none => .error (.notFound path)

/-- The first row, which stands for all in resolving field names; without rows it has no fields. -/
def sample (rows : List Row) : Row := rows.headD []

/-- What there is to say about records, in words. -/
def warnings (records : Records) : List String := records.notes.map RecordNote.message

end Records

/-- The first rows of a table. A negative number leaves out that many rows at the end. -/
def firstRows (count : Int) (rows : List Row) : List Row :=
  match count with
  | .ofNat count => rows.take count
  | .negSucc fewer => rows.take (rows.length - (fewer + 1))

end RowPlan
