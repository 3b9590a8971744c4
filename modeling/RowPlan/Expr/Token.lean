import RowPlan.Expr.Basic
import RowPlan.Decimal.Numeral

/-!
# Tokens of expressions

An expression text is cut into numbers, quoted texts, names, symbols and the words `and`, `or`,
`not`, `true`, `false` and `null`, which are recognised in any case. The token list ends with a
marker at the end of the text.

Digits of any kind start a numeral, but only decimal digits have a value: a numeral with another
digit is not a fault of syntax, it is unreadable.
-/

namespace RowPlan

/-- The symbols and operator words of expressions. -/
inductive Symbol where
  | compare (op : Comparison)
  | and
  | or
  | not
  | compute (op : Arithmetic)
  | opening
  | closing
  | question
  | colon
deriving DecidableEq

/-- The name of a symbol. -/
def Symbol.name : Symbol → String
  | .compare op => op.name
  | .and => "and"
  | .or => "or"
  | .not => "not"
  | .compute op => op.name
  | .opening => "("
  | .closing => ")"
  | .question => "?"
  | .colon => ":"

/-- The spellings of the symbols, longer ones first. -/
def Symbol.spellings : List (String × Symbol) := [
  ("==", .compare .eq), ("!=", .compare .neq), ("<>", .compare .neq), (">=", .compare .gte),
  ("<=", .compare .lte), ("&&", .and), ("||", .or),
  ("=", .compare .eq), (">", .compare .gt), ("<", .compare .lt), ("!", .not),
  ("+", .compute .add), ("-", .compute .sub), ("*", .compute .mul), ("/", .compute .div),
  ("%", .compute .mod), ("(", .opening), (")", .closing), ("?", .question), (":", .colon)]

/-- What a token is. -/
inductive TokenKind where
  | number (n : Number)
  | quoted (text : String)
  | name (text : String)
  | field (text : String)
  | word (value : Value)
  | symbol (s : Symbol)
  | finish

/-- A token and the offset at which it starts. -/
structure Token where
  kind : TokenKind
  position : Nat

/-- Faults of syntax. -/
inductive SyntaxFault where
  | unterminated
  | unexpectedCharacter (c : Char)
  | empty
  | expected (symbol : Symbol)
  | trailing
  | unexpectedEnd
  | unexpectedToken (symbol : Symbol)
  | notText

/-- The wording of a fault of syntax. -/
def SyntaxFault.message : SyntaxFault → String
  | .unterminated => "Unterminated quoted text"
  | .unexpectedCharacter c => s!"Unexpected character '{c}'"
  | .empty => "Empty expression"
  | .expected symbol => s!"Expected '{symbol.name}'"
  | .trailing => "Unexpected trailing input"
  | .unexpectedEnd => "Unexpected end of expression"
  | .unexpectedToken symbol => s!"Unexpected token '{symbol.name}'"
  | .notText => "Expression must be text"

/-- A problem with an expression text: a fault of syntax at an offset, or an unreadable numeral. -/
inductive ExprProblem where
  | malformed (fault : SyntaxFault) (position : Nat)
  | numeral (error : NumeralError)

namespace Token

/-- The digits after a mark, the mark included, if at least one digit follows it. -/
def markedDigits (mark : List Char) (rest : List Char) : List Char :=
  let digits := rest.takeWhile Text.isDigit
  if digits.isEmpty then [] else mark ++ digits

/-- The fraction at the start of a text: a point and digits. -/
def fraction : List Char → List Char
  | '.' :: rest => markedDigits ['.'] rest
  | _ => []

/-- The exponent at the start of a text: a mark, an optional sign and digits. -/
def exponent : List Char → List Char
  | mark :: rest =>
    if mark == 'e' || mark == 'E' then
      match rest with
      | '+' :: digits => markedDigits [mark, '+'] digits
      | '-' :: digits => markedDigits [mark, '-'] digits
      | digits => markedDigits [mark] digits
    else []
  | [] => []

/-- The numeral at the start of a text. -/
def numeral (text : List Char) : List Char :=
  let whole := text.takeWhile Text.isDigit
  let point := fraction (text.drop whole.length)
  whole ++ point ++ exponent (text.drop (whole.length + point.length))

/-- Whether a numeral has a fraction or an exponent. -/
def isDecimal (numeral : List Char) : Bool :=
  numeral.any fun c => c == '.' || c == 'e' || c == 'E'

/-- The number of a numeral. -/
def readNumeral (numeral : List Char) : Except NumeralError Number :=
  let text := String.ofList numeral
  if isDecimal numeral then
    match Decimal.readFloat? text with
    | some x => .ok (.float x)
    | none => .error (.notDecimal text)
  else
    (Decimal.integer text).map .int

/-- The text up to a closing quote and the number of characters read, the quote included. A
backslash takes the next character as it is. -/
def quotedText? (quote : Char) : List Char → Option (List Char × Nat)
  | [] => none
  | '\\' :: c :: rest => (quotedText? quote rest).map fun (text, count) => (c :: text, count + 2)
  | c :: rest =>
    if c = quote then some ([], 1)
    else (quotedText? quote rest).map fun (text, count) => (c :: text, count + 1)

/-- What a word means: an operator, a value, or the name of a field. -/
def ofWord (word : String) : TokenKind :=
  match Text.lower word with
  | "and" => .symbol .and
  | "or" => .symbol .or
  | "not" => .symbol .not
  | "true" => .word (.bool true)
  | "false" => .word (.bool false)
  | "null" => .word .null
  | _ => .name word

/-- The mark around field names that are no words. -/
def fieldQuote : Char := '\x60'

/-- Whether a numeral starts here: a digit, or a point before a digit. -/
def startsNumeral (text : List Char) : Bool :=
  match text with
  | '.' :: c :: _ => Text.isDigit c
  | c :: _ => Text.isDigit c
  | [] => false

/-- Read a quoted text, given the text after its opening quote. -/
def readQuoted (position : Nat) (quote : Char) (rest : List Char) :
    Except ExprProblem (TokenKind × Nat) :=
  match quotedText? quote rest with
  | some (text, count) =>
    let content := String.ofList text
    .ok (if quote = fieldQuote then .field content else .quoted content, count + 1)
  | none => .error (.malformed .unterminated position)

/-- Read a symbol. -/
def readSymbol (position : Nat) (c : Char) (text : List Char) :
    Except ExprProblem (TokenKind × Nat) :=
  match Symbol.spellings.find? fun spelling => spelling.1.toList.isPrefixOf text with
  | some (spelling, symbol) => .ok (.symbol symbol, spelling.length)
  | none => .error (.malformed (.unexpectedCharacter c) position)

/-- Read the token at the start of the text `c :: rest` and count its characters. -/
def readToken (position : Nat) (c : Char) (rest : List Char) :
    Except ExprProblem (TokenKind × Nat) :=
  if startsNumeral (c :: rest) then
    let numeral := numeral (c :: rest)
    match readNumeral numeral with
    | .ok n => .ok (.number n, numeral.length)
    | .error error => .error (.numeral error)
  else if c = '\x27' || c = '"' || c = fieldQuote then readQuoted position c rest
  else if Text.isLetter c || c = '_' then
    let word := c :: rest.takeWhile Text.isWordChar
    .ok (ofWord (String.ofList word), word.length)
  else readSymbol position c (c :: rest)

/-- The tokens of a text whose first character has the given offset. Every token takes at least one
character, so the length of the text bounds the number of tokens. -/
def scanFrom (limit position : Nat) (text : List Char) : Except ExprProblem (List Token) :=
  match limit, text with
  | 0, _ => .ok [⟨.finish, position⟩]
  | _, [] => .ok [⟨.finish, position⟩]
  | limit + 1, c :: rest =>
    if Text.isBlank c then scanFrom limit (position + 1) rest
    else
      match readToken position c rest with
      | .error problem => .error problem
      | .ok (kind, count) =>
        (scanFrom limit (position + count) ((c :: rest).drop count)).map (⟨kind, position⟩ :: ·)

/-- The tokens of an expression text. -/
def scan (text : String) : Except ExprProblem (List Token) :=
  scanFrom text.toList.length 0 text.toList

end Token

end RowPlan
