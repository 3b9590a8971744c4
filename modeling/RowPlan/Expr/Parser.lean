import RowPlan.Expr.Token

/-!
# Parsing expressions

The grammar, loosest first:

* a ternary is a disjunction, optionally followed by `?`, a ternary, `:` and a ternary;
* a disjunction joins conjunctions by `or`, a conjunction joins negations by `and`;
* a negation is a comparison, after any number of `not`;
* a comparison is a sum, optionally followed by one comparison operator and a sum;
* a sum joins products by `+` and `-`, a product joins signed operands by `*`, `/` and `%`;
* a signed operand is a primary after any number of signs; a plus sign leaves no trace;
* a primary is a number, a text, a word, a field, or a ternary in parentheses.

Chains associate to the left. Each level is a parser made from the parser of the next tighter level;
only parentheses and the branches of a ternary lead back to the top.
-/

namespace RowPlan

/-- A parser reads an expression at the start of a token list and returns the rest. -/
abbrev ExprParser := List Token → Except ExprProblem (Expr × List Token)

namespace ExprParser

/-- The offset of the next token. -/
def positionOf : List Token → Nat
  | token :: _ => token.position
  | [] => 0

/-- Take the given symbol. -/
def expect (symbol : Symbol) (tokens : List Token) : Except ExprProblem (List Token) :=
  match tokens with
  | ⟨.symbol found, position⟩ :: rest =>
    if found = symbol then .ok rest else .error (.malformed (.expected symbol) position)
  | _ => .error (.malformed (.expected symbol) (positionOf tokens))

/-- A primary, given the parser of what may stand in parentheses. -/
def primary (nested : ExprParser) : ExprParser
  | ⟨.number n, _⟩ :: rest => .ok (.literal (.num n), rest)
  | ⟨.quoted text, _⟩ :: rest => .ok (.literal (.str text), rest)
  | ⟨.word value, _⟩ :: rest => .ok (.literal value, rest)
  | ⟨.name name, _⟩ :: rest => .ok (.field name, rest)
  | ⟨.field name, _⟩ :: rest => .ok (.field name, rest)
  | ⟨.symbol .opening, _⟩ :: rest =>
    match nested rest with
    | .error problem => .error problem
    | .ok (inner, afterInner) => (expect .closing afterInner).map fun after => (inner, after)
  | ⟨.symbol symbol, position⟩ :: _ => .error (.malformed (.unexpectedToken symbol) position)
  | tokens => .error (.malformed .unexpectedEnd (positionOf tokens))

/-- An operand after any number of signs. -/
def signed (operand : ExprParser) : ExprParser
  | ⟨.symbol (.compute .sub), _⟩ :: rest =>
    (signed operand rest).map fun (inner, after) => (.neg inner, after)
  | ⟨.symbol (.compute .add), _⟩ :: rest => signed operand rest
  | tokens => operand tokens

/-- An operand after any number of `not`. -/
def negated (operand : ExprParser) : ExprParser
  | ⟨.symbol .not, _⟩ :: rest =>
    (negated operand rest).map fun (inner, after) => (.not inner, after)
  | tokens => operand tokens

/-- Extend an expression by operators of one level, each followed by an operand. Every operator takes
a token, so the number of tokens bounds the length of the chain. -/
def chainFrom (operator? : Symbol → Option BinaryOp) (operand : ExprParser) (limit : Nat)
    (left : Expr) (tokens : List Token) : Except ExprProblem (Expr × List Token) :=
  match limit, tokens with
  | limit + 1, ⟨.symbol symbol, _⟩ :: rest =>
    match operator? symbol with
    | some op =>
      match operand rest with
      | .error problem => .error problem
      | .ok (right, after) => chainFrom operator? operand limit (.binary op left right) after
    | none => .ok (left, tokens)
  | _, _ => .ok (left, tokens)

/-- Operands joined by operators of one level, associating to the left. -/
def chain (operator? : Symbol → Option BinaryOp) (operand : ExprParser) : ExprParser :=
  fun tokens =>
    match operand tokens with
    | .error problem => .error problem
    | .ok (first, rest) => chainFrom operator? operand rest.length first rest

/-- The operators of products. -/
def productOp? : Symbol → Option BinaryOp
  | .compute .mul => some (.compute .mul)
  | .compute .div => some (.compute .div)
  | .compute .mod => some (.compute .mod)
  | _ => none

/-- The operators of sums. -/
def sumOp? : Symbol → Option BinaryOp
  | .compute .add => some (.compute .add)
  | .compute .sub => some (.compute .sub)
  | _ => none

/-- The operator of conjunctions. -/
def andOp? : Symbol → Option BinaryOp
  | .and => some .and
  | _ => none

/-- The operator of disjunctions. -/
def orOp? : Symbol → Option BinaryOp
  | .or => some .or
  | _ => none

/-- An operand, optionally compared with another one. -/
def compared (operand : ExprParser) : ExprParser := fun tokens =>
  match operand tokens with
  | .error problem => .error problem
  | .ok (left, ⟨.symbol (.compare op), _⟩ :: rest) =>
    (operand rest).map fun (right, after) => (.binary (.compare op) left right, after)
  | .ok (left, rest) => .ok (left, rest)

/-- A disjunction, given the parser of what may stand in parentheses. -/
def disjunction (nested : ExprParser) : ExprParser :=
  let product := chain productOp? (signed (primary nested))
  let comparison := compared (chain sumOp? product)
  chain orOp? (chain andOp? (negated comparison))

/-- A ternary; `depth` bounds the nesting of parentheses and branches. -/
def ternary : Nat → ExprParser
  | 0 => fun tokens => .error (.malformed .unexpectedEnd (positionOf tokens))
  | depth + 1 => fun tokens =>
    match disjunction (ternary depth) tokens with
    | .error problem => .error problem
    | .ok (condition, ⟨.symbol .question, _⟩ :: afterQuestion) => do
      let (whenTrue, beforeColon) ← ternary depth afterQuestion
      let afterColon ← expect .colon beforeColon
      let (whenFalse, after) ← ternary depth afterColon
      .ok (.ternary condition whenTrue whenFalse, after)
    | .ok (condition, rest) => .ok (condition, rest)

/-- A whole token list as one expression. Every nested ternary takes a token, so the number of tokens
bounds the nesting. -/
def whole (tokens : List Token) : Except ExprProblem Expr :=
  match tokens with
  | ⟨.finish, _⟩ :: _ => .error (.malformed .empty 0)
  | _ =>
    match ternary tokens.length tokens with
    | .error problem => .error problem
    | .ok (expr, ⟨.finish, _⟩ :: _) => .ok expr
    | .ok (_, rest) => .error (.malformed .trailing (positionOf rest))

end ExprParser

/-- Why a text is no expression: a fault of syntax at an offset of the text, or an unreadable
numeral in it. -/
inductive ExprError where
  | malformed (fault : SyntaxFault) (position : Nat) (text : String)
  | numeral (error : NumeralError)

/-- The wording of an expression error. -/
def ExprError.message : ExprError → String
  | .malformed fault position text => s!"{fault.message} at position {position} in '{text}'"
  | .numeral error => error.message

namespace Expr

/-- Attach the text to a problem in it. -/
def errorOf (text : String) : ExprProblem → ExprError
  | .malformed fault position => .malformed fault position text
  | .numeral error => .numeral error

/-- Read an expression from its text. -/
def parse (text : String) : Except ExprError Expr :=
  match Token.scan text with
  | .error problem => .error (errorOf text problem)
  | .ok tokens => (ExprParser.whole tokens).mapError (errorOf text)

end Expr

end RowPlan
