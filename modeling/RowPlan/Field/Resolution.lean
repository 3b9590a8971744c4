import RowPlan.Field.Alias
import RowPlan.Pointer

/-!
# Field references

A plan may name a field loosely. A reference, a bare name or a pointer, is resolved against a sample
row by its first segment: to the field of exactly that name, else to the first one that differs in
case only, else to one that shares an alias group with it. A reference that matches no field stays
as it is and reads as absent; every other match than the exact one leaves a note.
-/

namespace RowPlan.Field

/-- What there is to say about the resolution of a reference. -/
inductive Note where
  | empty (reference : String)
  | byCase (name field : String)
  | byAlias (name field : String)
  | notFound (name : String) (available : List String)
deriving DecidableEq

/-- The wording of a note. -/
def Note.message : Note → String
  | .empty reference => s!"Field reference '{reference}' is empty"
  | .byCase name field => s!"Field '{name}' resolved to '{field}' via case-insensitive match"
  | .byAlias name field => s!"Field '{name}' resolved to '{field}' via alias"
  | .notFound name available =>
    let listing := if available.isEmpty then "(none)" else ", ".intercalate available
    s!"Field '{name}' not found in sample record. Available: {listing}"

/-- A field reference together with the field it stands for: the pointer to read, and whatever there
is to say about it. -/
structure Resolution where
  reference : String
  resolved : String
  path : String
  note : Option Note
deriving DecidableEq

namespace Resolution

/-- Whether a field was found. -/
def isResolved (resolution : Resolution) : Bool :=
  match resolution.note with
  | some (.empty _) => false
  | some (.notFound ..) => false
  | _ => true

/-- The warnings that a resolution gives rise to. -/
def warnings (resolution : Resolution) : List String := (resolution.note.map Note.message).toList

end Resolution

/-- The first field whose name differs from the given one in case only. -/
def matchCase? (name : String) (fields : List String) : Option String :=
  let wanted := Text.caseFold name
  fields.find? fun field => Text.caseFold field == wanted

/-- The first field that equals one of some words, exactly or folded; an earlier word wins. -/
def matchWords? (words fields : List String) : Option String :=
  words.findSome? fun word =>
    if fields.contains word then some word
    else
      let wanted := Text.fold word
      fields.find? fun field => Text.fold field == wanted

/-- The field that shares an alias group with a name. -/
def matchAlias? (name : String) (fields : List String) : Option String :=
  matchWords? (aliasesFor name) fields

/-- The field for a name, with a note unless the match is exact. -/
def matchField? (name : String) (fields : List String) : Option (String × Option Note) :=
  if fields.contains name then some (name, none)
  else
    match matchCase? name fields with
    | some field => some (field, some (.byCase name field))
    | none => (matchAlias? name fields).map fun field => (field, some (.byAlias name field))

/-- Resolve a reference against a sample row. -/
def resolve (reference : String) (sample : Row) : Resolution :=
  match Pointer.split reference with
  | [] => ⟨reference, reference, reference, some (.empty reference)⟩
  | name :: rest =>
    match matchField? name sample.keys with
    | some (field, note) => ⟨name, field, Pointer.join (field :: rest), note⟩
    | none => ⟨name, name, Pointer.join (name :: rest), some (.notFound name sample.keys)⟩

/-- The value of a resolved field in a row. -/
def read (row : Row) (resolution : Resolution) : Option Value :=
  if Pointer.isRoot resolution.path then none else Pointer.resolve (.obj row) resolution.path

/-- The value of a resolved field in a row, null where it is absent. -/
def readOrNull (row : Row) (resolution : Resolution) : Value := (read row resolution).getD .null

/-- Resolve a reference against a row and read it from that row. -/
def lookup (row : Row) (reference : String) : Option Value := read row (resolve reference row)

end RowPlan.Field
