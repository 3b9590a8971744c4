import RowPlan.Value.Basic

/-!
# Texts of values

`inspect` writes a value with its structure, for messages; `text` writes a text bare and any other
value like `inspect`; `display` is the form in which a value is looked up in a table of texts, where
null is empty and a whole number is an integer.

A value has no text if an integer in it has too many digits. A text that is written piece by piece, as
to a file, then ends before that integer.
-/

namespace RowPlan

namespace Value

/-- The text of a truth value in lower case. -/
def boolText (b : Bool) : String := if b then "true" else "false"

mutual

/-- A value with its structure: texts quoted, arrays in brackets and objects in braces. -/
def inspect : Value → Except TextError String
  | null => .ok "None"
  | bool b => .ok (if b then "True" else "False")
  | num n => n.text
  | str s => .ok (Text.quoted s)
  | arr items => do
    let texts ← inspectItems items
    .ok ("[" ++ ", ".intercalate texts ++ "]")
  | obj members => do
    let texts ← inspectMembers members
    .ok ("\x7b" ++ ", ".intercalate texts ++ "\x7d")

/-- The texts of the items of an array. -/
def inspectItems : List Value → Except TextError (List String)
  | [] => .ok []
  | item :: rest => do
    let text ← inspect item
    let texts ← inspectItems rest
    .ok (text :: texts)

/-- The texts of the members of an object. -/
def inspectMembers : List (String × Value) → Except TextError (List String)
  | [] => .ok []
  | (key, value) :: rest => do
    let text ← inspect value
    let texts ← inspectMembers rest
    .ok ((Text.quoted key ++ ": " ++ text) :: texts)

end

/-- A text bare, any other value with its structure. -/
def text : Value → Except TextError String
  | str s => .ok s
  | value => inspect value

/-- The text by which a value is looked up. -/
def display : Value → Except TextError String
  | null => .ok ""
  | bool b => .ok (boolText b)
  | num n =>
    match n.toInt? with
    | some whole => Decimal.writeInteger whole
    | none => n.text
  | value => text value

end Value

/-- A text that is written piece by piece: what has been written, and what has stopped the writing if it
did not come to its end. -/
structure Draft where
  text : String
  stop : Option TextError

namespace Draft

/-- A piece that needs no conversion. -/
def piece (text : String) : Draft := ⟨text, none⟩

/-- A piece that is written whole or not at all. -/
def ofText : Except TextError String → Draft
  | .ok text => piece text
  | .error error => ⟨"", some error⟩

/-- Go on writing, unless something has stopped it. -/
def append (first second : Draft) : Draft :=
  match first.stop with
  | some _ => first
  | none => ⟨first.text ++ second.text, second.stop⟩

instance : Append Draft := ⟨append⟩

/-- The text, if it was written to its end. -/
def toText (draft : Draft) : Except TextError String :=
  match draft.stop with
  | some error => .error error
  | none => .ok draft.text

end Draft

end RowPlan
