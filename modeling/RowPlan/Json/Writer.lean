import RowPlan.Value.Display

/-!
# Writing JSON

Values as JSON text, on one line or indented. Characters beyond ASCII stand for themselves; only the
quote, the backslash and the control characters are escaped. Infinite and undefined numbers are
written as the words `Infinity`, `-Infinity` and `NaN`. An integer with too many digits cannot be written:
there is no line with it, and an indented text ends before it.
-/

namespace RowPlan.Json

/-- Escape one character of a JSON string. -/
def escapeChar (c : Char) : List Char :=
  if c = '"' || c = '\\' then ['\\', c]
  else if c = '\n' then ['\\', 'n']
  else if c = '\r' then ['\\', 'r']
  else if c = '\t' then ['\\', 't']
  else if c = Char.ofNat 8 then ['\\', 'b']
  else if c = Char.ofNat 12 then ['\\', 'f']
  else if c.toNat < 32 then ['\\', 'u'] ++ Text.hexDigits 4 c.toNat
  else [c]

/-- A JSON string. -/
def writeString (s : String) : String :=
  String.ofList ('"' :: s.toList.flatMap escapeChar ++ ['"'])

/-- How infinite and undefined numbers are spelled in JSON texts. -/
def spelling : Decimal.Spelling := ⟨"Infinity", "NaN"⟩

/-- A JSON number. -/
def writeNumber : Number → Except TextError String
  | .int n => Decimal.writeInteger n
  | .float x => .ok (Decimal.text spelling x)

mutual

/-- A value on one line, with a blank after every comma and colon. -/
def write : Value → Except TextError String
  | .null => .ok "null"
  | .bool b => .ok (if b then "true" else "false")
  | .num n => writeNumber n
  | .str s => .ok (writeString s)
  | .arr items => do
    let texts ← writeItems items
    .ok ("[" ++ ", ".intercalate texts ++ "]")
  | .obj members => do
    let texts ← writeMembers members
    .ok ("\x7b" ++ ", ".intercalate texts ++ "\x7d")

/-- The items of an array, each on one line. -/
def writeItems : List Value → Except TextError (List String)
  | [] => .ok []
  | item :: rest => do
    let text ← write item
    let texts ← writeItems rest
    .ok (text :: texts)

/-- The members of an object, each on one line. -/
def writeMembers : List (String × Value) → Except TextError (List String)
  | [] => .ok []
  | (key, value) :: rest => do
    let text ← write value
    let texts ← writeMembers rest
    .ok ((writeString key ++ ": " ++ text) :: texts)

end

/-- A line break followed by the indentation of a level. -/
def lineBreak (indent level : Nat) : String :=
  String.ofList ('\n' :: List.replicate (indent * level) ' ')

/-- An item of an array with what leads to it. A number is written in one piece with its lead. -/
def leadTo (lead : String) (item : Value) (written : Draft) : Draft :=
  match item with
  | .num n => .ofText ((writeNumber n).map (lead ++ ·))
  | _ => .piece lead ++ written

mutual

/-- A value over several lines, piece by piece and nested by `indent` blanks per level. -/
def writeIndented (indent level : Nat) : Value → Draft
  | .arr items =>
    if items.isEmpty then .piece "[]"
    else
      writeIndentedItems indent (level + 1) ("[" ++ lineBreak indent (level + 1)) items
        ++ .piece (lineBreak indent level ++ "]")
  | .obj members =>
    if members.isEmpty then .piece "\x7b\x7d"
    else
      writeIndentedMembers indent (level + 1) ("\x7b" ++ lineBreak indent (level + 1)) members
        ++ .piece (lineBreak indent level ++ "\x7d")
  | .null => .piece "null"
  | .bool b => .piece (if b then "true" else "false")
  | .num n => .ofText (writeNumber n)
  | .str s => .piece (writeString s)

/-- The items of an array, each on a line of its own; `lead` leads to the first one. -/
def writeIndentedItems (indent level : Nat) (lead : String) : List Value → Draft
  | [] => .piece ""
  | item :: rest =>
    leadTo lead item (writeIndented indent level item)
      ++ writeIndentedItems indent level ("," ++ lineBreak indent level) rest

/-- The members of an object, each on a line of its own; `lead` leads to the first one. -/
def writeIndentedMembers (indent level : Nat) (lead : String) : List (String × Value) → Draft
  | [] => .piece ""
  | (key, value) :: rest =>
    .piece (lead ++ writeString key ++ ": ") ++ writeIndented indent level value
      ++ writeIndentedMembers indent level ("," ++ lineBreak indent level) rest

end

/-- A value as JSON text, indented if a width is given. -/
def writeWith (indent : Option Nat) (value : Value) : Except TextError String :=
  match indent with
  | some width => (writeIndented width 0 value).toText
  | none => write value

end RowPlan.Json
