import RowPlan.Value.Basic

/-!
# Reading JSON

Strict JSON, with three extensions: the words `NaN`, `Infinity` and `-Infinity` are numbers, a
repeated member keeps its first place and its last value, and a number beyond the range of doubles
is infinite. A text that is not JSON is refused with the place and the kind of its first fault.
-/

namespace RowPlan.Json

/-- What is wrong at a place of a text. -/
inductive Fault where
  | byteOrderMark
  | noValue
  | noName
  | noColon
  | noComma
  | unterminated
  | controlCharacter
  | badEscape
  | badUnicodeEscape
  | extraData
deriving DecidableEq

/-- The wording of a fault. -/
def Fault.message : Fault → String
  | .byteOrderMark => "Unexpected UTF-8 BOM (decode using utf-8-sig)"
  | .noValue => "Expecting value"
  | .noName => "Expecting property name enclosed in double quotes"
  | .noColon => "Expecting ':' delimiter"
  | .noComma => "Expecting ',' delimiter"
  | .unterminated => "Unterminated string starting at"
  | .controlCharacter => "Invalid control character at"
  | .badEscape => "Invalid \\escape"
  | .badUnicodeEscape => "Invalid \\uXXXX escape"
  | .extraData => "Extra data"

/-- Why a text could not be read: a fault at a place, given by line, column and offset, or an integer
with too many digits. -/
inductive ReadError where
  | malformed (fault : Fault) (line column offset : Nat)
  | tooLong (digits : Nat)

/-- The wording of a reading error. -/
def ReadError.message : ReadError → String
  | .malformed fault line column offset =>
    s!"{fault.message}: line {line} column {column} (char {offset})"
  | .tooLong digits => Decimal.tooLongMessage digits

/-- A problem found while reading, its place given by an offset into the text. -/
inductive Problem where
  | malformed (fault : Fault) (offset : Nat)
  | tooLong (digits : Nat)

/-- What is left of a text, with the offset of its first character. -/
structure Cursor where
  offset : Nat
  rest : List Char

/-- Drop the given number of characters. -/
def Cursor.skip (cursor : Cursor) (count : Nat) : Cursor :=
  ⟨cursor.offset + count, cursor.rest.drop count⟩

/-- White space between the tokens of a JSON text. -/
def isSpace (c : Char) : Bool := c == ' ' || c == '\t' || c == '\n' || c == '\r'

/-- Drop white space. -/
def Cursor.skipSpaces (cursor : Cursor) : Cursor :=
  cursor.skip (cursor.rest.takeWhile isSpace).length

/-- The code of a string character that a one-letter escape stands for. -/
def simpleEscape? (c : Char) : Option Nat :=
  match c with
  | '"' | '\\' | '/' => some c.toNat
  | 'b' => some 8
  | 'f' => some 12
  | 'n' => some 10
  | 'r' => some 13
  | 't' => some 9
  | _ => none

/-- The code of four hexadecimal digits. -/
def hexCode? (a b c d : Char) : Option Nat :=
  [a, b, c, d].foldl
    (fun code digit => code.bind fun value => (Text.hexValue? digit).map (value * 16 + ·)) (some 0)

/-- Prepend a code to the codes of the rest of a string. -/
def prependCode (code : Nat) (tail : Except Problem (List Nat × Cursor)) :
    Except Problem (List Nat × Cursor) :=
  tail.map fun (codes, cursor) => (code :: codes, cursor)

/-- The character codes of a string up to its closing quote. `start` is the offset of its opening
quote and `offset` that of the next character. -/
def readCodes (start offset : Nat) : List Char → Except Problem (List Nat × Cursor)
  | [] => .error (.malformed .unterminated start)
  | '"' :: rest => .ok ([], ⟨offset + 1, rest⟩)
  | '\\' :: 'u' :: a :: b :: c :: d :: rest =>
    match hexCode? a b c d, rest with
    | some code, _ :: _ => prependCode code (readCodes start (offset + 6) rest)
    | _, _ => .error (.malformed .badUnicodeEscape (offset + 1))
  | '\\' :: 'u' :: _ => .error (.malformed .badUnicodeEscape (offset + 1))
  | '\\' :: c :: rest =>
    match simpleEscape? c with
    | some code => prependCode code (readCodes start (offset + 2) rest)
    | none => .error (.malformed .badEscape offset)
  | '\\' :: [] => .error (.malformed .unterminated start)
  | c :: rest =>
    if c.toNat < 32 then .error (.malformed .controlCharacter offset)
    else prependCode c.toNat (readCodes start (offset + 1) rest)

/-- The text of a list of codes: a high and a low surrogate in succession are one character. A
surrogate alone is no character and is replaced. -/
def joinSurrogates : List Nat → List Char
  | [] => []
  | high :: low :: rest =>
    if 0xD800 ≤ high ∧ high < 0xDC00 ∧ 0xDC00 ≤ low ∧ low < 0xE000 then
      Char.ofNat (0x10000 + (high - 0xD800) * 0x400 + (low - 0xDC00)) :: joinSurrogates rest
    else replaceSurrogate high :: joinSurrogates (low :: rest)
  | [code] => [replaceSurrogate code]
where
  replaceSurrogate (code : Nat) : Char :=
    if 0xD800 ≤ code ∧ code < 0xE000 then Char.ofNat 0xFFFD else Char.ofNat code

/-- Read a string whose opening quote comes first. -/
def readString (cursor : Cursor) : Except Problem (String × Cursor) :=
  (readCodes cursor.offset (cursor.offset + 1) (cursor.rest.drop 1)).map fun (codes, after) =>
    (String.ofList (joinSurrogates codes), after)

/-- The digits of the whole part of a number: a zero alone, or digits that start with another one. -/
def wholeDigits (text : List Char) : List Char :=
  match text with
  | '0' :: _ => ['0']
  | _ => text.takeWhile Char.isDigit

/-- The fraction of a number, point included; a point that no digit follows is not part of it. -/
def fractionPart (text : List Char) : List Char :=
  match text with
  | '.' :: rest =>
    let digits := rest.takeWhile Char.isDigit
    if digits.isEmpty then [] else '.' :: digits
  | _ => []

/-- The sign of an exponent, if it has one. -/
def exponentSign (text : List Char) : List Char :=
  match text with
  | '+' :: _ => ['+']
  | '-' :: _ => ['-']
  | _ => []

/-- The exponent of a number, mark and sign included; a mark without digits is not part of it. -/
def exponentPart (text : List Char) : List Char :=
  match text with
  | mark :: rest =>
    if mark == 'e' || mark == 'E' then
      let sign := exponentSign rest
      let digits := (rest.drop sign.length).takeWhile Char.isDigit
      if digits.isEmpty then [] else mark :: sign ++ digits
    else []
  | [] => []

/-- The sign of a number, if it has one. -/
def numberSign (text : List Char) : List Char :=
  match text with
  | '-' :: _ => ['-']
  | _ => []

/-- The number with the given parts: an integer if there is neither fraction nor exponent. -/
def numberOf (sign whole fraction exponent : List Char) : Number :=
  if fraction.isEmpty && exponent.isEmpty then
    let magnitude : Int := Decimal.digitsValue 0 whole
    .int (if sign.isEmpty then magnitude else -magnitude)
  else
    let power := (Decimal.readExponent? exponent).getD 0
    let digits := fraction.drop 1
    let mantissa := Decimal.digitsValue (Decimal.digitsValue 0 whole) digits
    .float (Decimal.ofScientific (!sign.isEmpty) mantissa (power - digits.length))

/-- Read a number; without one there is no value at its place. -/
def readNumber (cursor : Cursor) : Except Problem (Value × Cursor) :=
  let sign := numberSign cursor.rest
  let afterSign := cursor.rest.drop sign.length
  let whole := wholeDigits afterSign
  let afterWhole := afterSign.drop whole.length
  let fraction := fractionPart afterWhole
  let exponent := exponentPart (afterWhole.drop fraction.length)
  let after := cursor.skip (sign.length + whole.length + fraction.length + exponent.length)
  if whole.isEmpty then .error (.malformed .noValue cursor.offset)
  else if fraction.isEmpty && exponent.isEmpty && Decimal.digitLimit < whole.length then
    .error (.tooLong whole.length)
  else .ok (.num (numberOf sign whole fraction exponent), after)

/-- The words that stand for values. -/
def words : List (String × Value) :=
  [("null", .null), ("true", .bool true), ("false", .bool false),
    ("NaN", .num (.float Decimal.notANumber)),
    ("Infinity", .num (.float (Decimal.infinity false))),
    ("-Infinity", .num (.float (Decimal.infinity true)))]

/-- Read a word or a number. -/
def readScalar (cursor : Cursor) : Except Problem (Value × Cursor) :=
  match words.find? fun word => word.1.toList.isPrefixOf cursor.rest with
  | some (word, value) => .ok (value, cursor.skip word.length)
  | none => readNumber cursor

mutual

/-- Read a value; `fuel` bounds the depth of calls. -/
def readValue (fuel : Nat) (cursor : Cursor) : Except Problem (Value × Cursor) :=
  match fuel with
  | 0 => .error (.malformed .noValue cursor.offset)
  | fuel + 1 =>
    match cursor.rest with
    | '"' :: _ => (readString cursor).map fun (s, after) => (.str s, after)
    | '[' :: _ =>
      let inside := (cursor.skip 1).skipSpaces
      match inside.rest with
      | ']' :: _ => .ok (.arr [], inside.skip 1)
      | _ => (readItems fuel inside).map fun (items, after) => (.arr items, after)
    | '\x7b' :: _ =>
      let inside := (cursor.skip 1).skipSpaces
      match inside.rest with
      | '\x7d' :: _ => .ok (.obj [], inside.skip 1)
      | _ => (readMembers fuel inside).map fun (members, after) => (.obj (Row.ofPairs members), after)
    | _ => readScalar cursor

/-- Read the items of an array up to its closing bracket. -/
def readItems (fuel : Nat) (cursor : Cursor) : Except Problem (List Value × Cursor) :=
  match fuel with
  | 0 => .error (.malformed .noValue cursor.offset)
  | fuel + 1 => do
    let (item, afterItem) ← readValue fuel cursor
    let next := afterItem.skipSpaces
    match next.rest with
    | ']' :: _ => .ok ([item], next.skip 1)
    | ',' :: _ =>
      let (items, after) ← readItems fuel (next.skip 1).skipSpaces
      .ok (item :: items, after)
    | _ => .error (.malformed .noComma next.offset)

/-- Read the members of an object up to its closing brace. -/
def readMembers (fuel : Nat) (cursor : Cursor) : Except Problem (List (String × Value) × Cursor) :=
  match fuel with
  | 0 => .error (.malformed .noValue cursor.offset)
  | fuel + 1 =>
    match cursor.rest with
    | '"' :: _ => do
      let (name, afterName) ← readString cursor
      let colon := afterName.skipSpaces
      match colon.rest with
      | ':' :: _ =>
        let (value, afterValue) ← readValue fuel (colon.skip 1).skipSpaces
        let next := afterValue.skipSpaces
        match next.rest with
        | '\x7d' :: _ => .ok ([(name, value)], next.skip 1)
        | ',' :: _ =>
          let (members, after) ← readMembers fuel (next.skip 1).skipSpaces
          .ok ((name, value) :: members, after)
        | _ => .error (.malformed .noComma next.offset)
      | _ => .error (.malformed .noColon colon.offset)
    | _ => .error (.malformed .noName cursor.offset)

end

/-- Read a text that holds one value and nothing but white space around it. Every second call takes
a character from the text, which bounds the depth of calls. -/
def readText (text : List Char) : Except Problem Value :=
  if text.head? = some (Char.ofNat 0xFEFF) then .error (.malformed .byteOrderMark 0)
  else do
    let (value, afterValue) ← readValue (2 * text.length + 2) (Cursor.skipSpaces ⟨0, text⟩)
    let final := afterValue.skipSpaces
    if final.rest.isEmpty then .ok value else .error (.malformed .extraData final.offset)

/-- Give a problem the line and the column of its place. -/
def Problem.locate (text : List Char) : Problem → ReadError
  | .malformed fault offset =>
    let before := text.take offset
    let line := before.count '\n' + 1
    let column := (before.reverse.takeWhile (· != '\n')).length + 1
    .malformed fault line column offset
  | .tooLong digits => .tooLong digits

/-- Read a JSON text. -/
def read (text : String) : Except ReadError Value :=
  (readText text.toList).mapError (Problem.locate text.toList)

end RowPlan.Json
