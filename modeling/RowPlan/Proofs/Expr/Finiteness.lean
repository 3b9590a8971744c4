import RowPlan.Expr.Eval
import RowPlan.Proofs.Execution.Arithmetic
import RowPlan.Proofs.Expr.Recognition
import RowPlan.Proofs.Expr.Unreadable
import RowPlan.Proofs.Number.Range
import RowPlan.Proofs.Value.Hereditary

/-!
# Where computed values are finite

Arithmetic has finite results only, numeric texts are read as finite numbers only, and the fields of a
row are as finite as the row is. What is left are the literals of the expression: a decimal numeral
beyond the range of the doubles is read as the infinite double, and nothing keeps it from being the value
of the expression.

It is, exactly when the conditions of the expression choose it as the value itself. Whatever takes it as an
operand or as a condition does not hand it on.
-/

namespace RowPlan

/-! ## Finite values -/

/-- Values all of whose numbers are finite. -/
inductive Value.Finite : Value → Prop where
  | null : Finite .null
  | bool (b : Bool) : Finite (.bool b)
  | num {n : Number} : n.isFinite = true → Finite (.num n)
  | str (s : String) : Finite (.str s)
  | arr {items} : (∀ item ∈ items, Finite item) → Finite (.arr items)
  | obj {members} : (∀ member ∈ members, Finite member.2) → Finite (.obj members)

/-- Rows all of whose numbers are finite. -/
def Row.Finite (row : Row) : Prop := (Value.obj row).Finite

namespace Value

/-- The infinite double as a value. -/
def infinite : Value := .num (.float (Decimal.infinity false))

/-- Whether a value is the infinite double. -/
def isInfinite : Value → Bool
  | num n => n = .float (Decimal.infinity false)
  | _ => false

theorem isInfinite_iff (value : Value) : value.isInfinite = true ↔ value = .infinite := by
  cases value with
  | num n => simp [isInfinite, infinite]
  | _ => exact iff_of_false Bool.false_ne_true nofun

theorem finite_num_iff (n : Number) : (Value.num n).Finite ↔ n.isFinite = true := by
  constructor
  · rintro (_ | _ | finite)
    exact finite
  · exact .num

theorem not_finite_infinite : ¬infinite.Finite := by
  rw [infinite, finite_num_iff, Number.isFinite, Decimal.isFinite_infinity]
  exact Bool.false_ne_true

theorem hereditary_finite : Hereditary Finite where
  item := by
    rintro items (_ | _ | _ | _ | each)
    exact each
  member := by
    rintro members (_ | _ | _ | _ | _ | each)
    exact each

theorem Finite.truth (part : Option Bool) : (Truth.toValue part).Finite := by
  cases part with
  | none => exact .null
  | some b => exact .bool b

theorem finite_of_finiteOrNull {value : Value} (finite : Arithmetic.FiniteOrNull value) :
    value.Finite := by
  rcases finite with rfl | ⟨number, rfl, finite⟩
  · exact .null
  · exact .num finite

end Value

/-! ## Literals -/

/-- The value that a token stands for by itself. -/
def TokenKind.literal? : TokenKind → Option Value
  | .number n => some (.num n)
  | .quoted text => some (.str text)
  | .word value => some value
  | _ => none

/-- The literals of an expression, from left to right. -/
def Expr.literals : Expr → List Value
  | literal value => [value]
  | field _ => []
  | neg operand => operand.literals
  | not operand => operand.literals
  | binary _ left right => left.literals ++ right.literals
  | ternary condition whenTrue whenFalse =>
    condition.literals ++ whenTrue.literals ++ whenFalse.literals

/-- The literals of an expression are those among its tokens. -/
theorem Grammar.Derives.literals_eq
    {category : Category} {tokens : List Token} {expr : Expr}
    (derivation : Derives category tokens expr) :
    expr.literals = tokens.filterMap (·.kind.literal?) := by
  induction derivation <;> simp [Expr.literals, TokenKind.literal?, *]

/-! ## Values of expressions -/

namespace Expr

/-- The part of an expression that gives its value on a row: the branch that its conditions choose. An
undecided condition gives null. -/
def chosen (row : Row) : Expr → Expr
  | ternary condition whenTrue whenFalse =>
    match truth (eval row condition) with
    | none => literal .null
    | some true => chosen row whenTrue
    | some false => chosen row whenFalse
  | expr => expr

theorem eval_chosen (row : Row) (expr : Expr) : (expr.chosen row).eval row = expr.eval row := by
  induction expr with
  | ternary condition whenTrue whenFalse _ ofTrue ofFalse =>
      rw [chosen, eval]
      rcases truth (eval row condition) with _ | _ | _
      · rfl
      · exact ofFalse
      · exact ofTrue
  | _ => rfl

variable {row : Row}

theorem finite_neg (operand : Expr) : (operand.neg.evalOrNull row).Finite := by
  rw [evalOrNull, eval, Option.getD_some]
  cases number : (eval row operand).bind Value.toNumber? with
  | none => exact .null
  | some n =>
      rcases Option.bind_eq_some_iff.1 number with ⟨value, _, number⟩
      exact .num (Number.isFinite_neg (Value.isFinite_of_toNumber? number))

theorem finite_binary (op : BinaryOp) (left right : Expr) :
    ((binary op left right).evalOrNull row).Finite := by
  rw [evalOrNull, eval, Option.getD_some]
  cases op with
  | compute op => exact Value.finite_of_finiteOrNull (Arithmetic.apply_finiteOrNull op _ _)
  | _ => exact .truth _

variable (finite : row.Finite)

include finite

theorem finite_field (name : String) : ((field name).evalOrNull row).Finite :=
  Value.hereditary_finite.of_readOrNull finite .null _

/-- The value of an expression on a finite row is finite unless its conditions choose a literal. -/
theorem finite_or_literal (expr : Expr) :
    (expr.evalOrNull row).Finite ∨ ∃ value ∈ expr.literals, expr.chosen row = literal value := by
  induction expr with
  | literal value => exact .inr ⟨value, List.mem_singleton_self value, rfl⟩
  | field name => exact .inl (finite_field finite name)
  | neg operand => exact .inl (finite_neg operand)
  | not operand => exact .inl (.truth _)
  | binary op left right => exact .inl (finite_binary op left right)
  | ternary condition whenTrue whenFalse _ ofTrue ofFalse =>
      rw [evalOrNull, eval, chosen, literals]
      rcases truth (eval row condition) with _ | _ | _
      · exact .inl .null
      · refine ofFalse.imp_right ?_
        rintro ⟨value, member, isChosen⟩
        exact ⟨value, List.mem_append_right _ member, isChosen⟩
      · refine ofTrue.imp_right ?_
        rintro ⟨value, member, isChosen⟩
        exact ⟨value, List.mem_append_left _ (List.mem_append_right _ member), isChosen⟩

/-- Where no literal but the infinite one is not finite, the value of an expression is finite unless its
conditions choose the infinite literal. -/
theorem not_finite_iff_chosen
    {expr : Expr} (ordinary : ∀ value ∈ expr.literals, value.Finite ∨ value = .infinite) :
    ¬(expr.evalOrNull row).Finite ↔ expr.chosen row = literal .infinite := by
  constructor
  · intro notFinite
    rcases (finite_or_literal finite expr).resolve_left notFinite with ⟨value, member, isChosen⟩
    rw [evalOrNull, ← eval_chosen, isChosen] at notFinite
    rw [isChosen, (ordinary value member).resolve_left notFinite]
  · intro isChosen
    rw [evalOrNull, ← eval_chosen, isChosen]
    exact Value.not_finite_infinite

end Expr

/-! ## Numerals beyond the range -/

namespace Token

/-- A numeral with a point or an exponent that writes a number beyond the range of the doubles. -/
def TooLarge (numeral : List Char) : Prop :=
  isDecimal numeral = true ∧
    ∃ whole point exponent, numeral = whole ++ point ++ exponent ∧
      Decimal.Numeral whole point exponent ∧
      (Decimal.rangeEnd : ℚ) ≤ Decimal.numeralValue whole point exponent

/-- A numeral is read as a finite number, or it is too large and read as the infinite double. -/
theorem readNumeral_cases
    {text : List Char} (starts : startsNumeral text = true) {n : Number}
    (read : readNumeral (numeral text) = .ok n) :
    (n.isFinite = true ∧ ¬TooLarge (numeral text)) ∨
      (Value.num n = .infinite ∧ TooLarge (numeral text)) := by
  rw [readNumeral] at read
  cases decimal : isDecimal (numeral text) with
  | false =>
      rw [decimal, if_neg Bool.false_ne_true] at read
      rcases Outcome.map_eq_ok_iff.1 read with ⟨k, _, rfl⟩
      refine .inl ⟨rfl, fun large => ?_⟩
      cases decimal.symm.trans large.1
  | true =>
      rw [decimal, if_pos rfl] at read
      split at read
      · rename_i x isFloat
        cases read
        rcases numeral_parts starts with ⟨whole, point, exponent, shape, parts⟩
        rcases parts.readFloat?_cases (shape ▸ isFloat) with ⟨_, finite⟩ | ⟨beyond, rfl⟩
        · refine .inl ⟨finite, ?_⟩
          rintro ⟨_, _, _, _, shape', parts', beyond⟩
          rcases parts'.readFloat?_cases (shape' ▸ isFloat) with ⟨within, _⟩ | ⟨_, rfl⟩
          · exact absurd beyond (not_le.2 within)
          · cases (Decimal.isFinite_infinity false).symm.trans finite
        · exact .inr ⟨rfl, decimal, whole, point, exponent, shape, parts, beyond⟩
      · cases read

theorem readAt_number_iff {start position : Nat} {text : List Char} {n : Number} :
    ReadAt start text ⟨.number n, position⟩ ↔
      ∃ rest, Reaches start text position rest ∧ startsNumeral rest = true ∧
        readNumeral (numeral rest) = .ok n := by
  constructor
  · rintro ⟨c, rest, count, reached, _, read⟩
    dsimp only at read
    generalize kindRead : TokenKind.number n = kind at read
    cases begins_of_readToken read with
    | number starts numeralRead =>
        cases kindRead
        exact ⟨_, reached, starts, numeralRead⟩
    | word =>
        rw [ofWord] at kindRead
        split at kindRead <;> cases kindRead
    | _ => cases kindRead
  · rintro ⟨rest, reached, starts, numeralRead⟩
    rcases startsNumeral_nonempty starts with ⟨c, rest, rfl, noBlank⟩
    refine ⟨c, rest, (numeral (c :: rest)).length, reached, noBlank, ?_⟩
    rw [readToken, if_pos starts]
    dsimp only
    rw [numeralRead]

/-- The literals that are no numbers are finite. -/
theorem ReadAt.finite_or_number
    {start : Nat} {text : List Char} {token : Token} (read : ReadAt start text token) {value : Value}
    (isLiteral : token.kind.literal? = some value) :
    value.Finite ∨ ∃ n, value = .num n ∧ token.kind = .number n := by
  rcases read with ⟨c, rest, count, _, _, read⟩
  generalize token.kind = kind at read isLiteral
  cases begins_of_readToken read with
  | number =>
      cases isLiteral
      exact .inr ⟨_, rfl, rfl⟩
  | quoted =>
      cases isLiteral
      exact .inl (.str _)
  | word =>
      rw [ofWord] at isLiteral
      split at isLiteral <;> cases isLiteral
      · exact .inl (.bool true)
      · exact .inl (.bool false)
      · exact .inl .null
  | field => cases isLiteral
  | symbol => cases isLiteral

end Token

namespace Expr

/-- A text in which the scanner comes to a numeral beyond the range of the doubles. -/
def TooLarge (text : String) : Prop :=
  ∃ position rest, Token.Reaches 0 text.toList position rest ∧ Token.startsNumeral rest = true ∧
    Token.TooLarge (Token.numeral rest)

section Parsed

variable {text : String} {expr : Expr} (parsed : parse text = .ok expr)

include parsed

theorem derives_of_parse :
    ∃ body finish, Token.scan text = .ok (body ++ [⟨.finish, finish⟩]) ∧
      Grammar.Derives .ternary body expr := by
  rw [parse] at parsed
  split at parsed
  · cases parsed
  · rename_i tokens scanned
    rcases Grammar.scanFrom_ends scanned with ⟨body, finish, rfl, noFinish⟩
    have whole := Outcome.mapError_eq_ok_iff.1 parsed
    exact ⟨body, finish, scanned, (Grammar.whole_eq_ok_iff noFinish finish).1 whole⟩

/-- The literals of an expression are those that the scanner reads in its text. -/
theorem mem_literals_iff (value : Value) :
    value ∈ expr.literals ↔
      ∃ token, Token.ReadAt 0 text.toList token ∧ token.kind.literal? = some value := by
  rcases derives_of_parse parsed with ⟨body, finish, scanned, derivation⟩
  rw [derivation.literals_eq, List.mem_filterMap]
  refine exists_congr fun token => and_congr_left fun isLiteral => ?_
  have notFinish : token.kind ≠ .finish := by
    intro isFinish
    rw [isFinish] at isLiteral
    cases isLiteral
  rw [← Token.mem_scanFrom_iff (Nat.le_refl _) scanned notFinish, List.mem_append,
    List.mem_singleton]
  refine ⟨.inl, fun member => member.resolve_right ?_⟩
  rintro rfl
  exact notFinish rfl

theorem literals_ordinary : ∀ value ∈ expr.literals, value.Finite ∨ value = .infinite := by
  intro value member
  rcases (mem_literals_iff parsed value).1 member with ⟨⟨kind, position⟩, read, isLiteral⟩
  rcases read.finite_or_number isLiteral with finite | ⟨n, rfl, rfl⟩
  · exact .inl finite
  · rcases Token.readAt_number_iff.1 read with ⟨rest, _, starts, numeralRead⟩
    rcases Token.readNumeral_cases starts numeralRead with ⟨finite, _⟩ | ⟨infinite, _⟩
    · exact .inl (.num finite)
    · exact .inr infinite

/-- The infinite double is among the literals exactly when a numeral of the text is too large. -/
theorem infinite_mem_literals_iff : .infinite ∈ expr.literals ↔ TooLarge text := by
  rw [mem_literals_iff parsed]
  constructor
  · rintro ⟨⟨kind, position⟩, read, isLiteral⟩
    rcases (read.finite_or_number isLiteral).resolve_left Value.not_finite_infinite with
      ⟨n, same, rfl⟩
    rcases Token.readAt_number_iff.1 read with ⟨rest, reached, starts, numeralRead⟩
    refine ⟨position, rest, reached, starts, ?_⟩
    rcases Token.readNumeral_cases starts numeralRead with ⟨finite, _⟩ | ⟨_, large⟩
    · exact absurd (same ▸ Value.Finite.num finite) Value.not_finite_infinite
    · exact large
  · rintro ⟨position, rest, reached, starts, large⟩
    cases numeralRead : Token.readNumeral (Token.numeral rest) with
    | error error =>
        rcases derives_of_parse parsed with ⟨_, _, scanned, _⟩
        have stopped := Token.scan_eq_numeral_iff.2 ⟨position, rest, reached, starts, numeralRead⟩
        cases scanned.symm.trans stopped
    | ok n =>
        refine ⟨_, Token.readAt_number_iff.2 ⟨rest, reached, starts, numeralRead⟩, ?_⟩
        rcases Token.readNumeral_cases starts numeralRead with ⟨_, notLarge⟩ | ⟨infinite, _⟩
        · exact absurd large notLarge
        · exact congrArg some infinite

end Parsed

/--
Where the numerals of an expression are in the range of the doubles, its value on a finite row is finite.
A numeral of the text is beyond that range exactly when the infinite double is among the literals, and the
value is not finite exactly when the conditions choose that literal, which then is the value.
-/
theorem values_finite_in_range {text : String} {expr : Expr} (parsed : parse text = .ok expr) :
    (.infinite ∈ expr.literals ↔ TooLarge text) ∧
      ∀ row : Row, row.Finite →
        (¬TooLarge text → (expr.evalOrNull row).Finite) ∧
        (¬(expr.evalOrNull row).Finite ↔ expr.chosen row = literal .infinite) ∧
        (¬(expr.evalOrNull row).Finite → expr.evalOrNull row = .infinite) := by
  have atNumeral := infinite_mem_literals_iff parsed
  refine ⟨atNumeral, fun row finite => ?_⟩
  have exactly := not_finite_iff_chosen finite (literals_ordinary parsed)
  refine ⟨fun inRange => ?_, exactly, fun notFinite => ?_⟩
  · rcases finite_or_literal finite expr with valueFinite | ⟨value, member, isChosen⟩
    · exact valueFinite
    · by_contra notFinite
      cases isChosen.symm.trans (exactly.1 notFinite)
      exact inRange (atNumeral.1 member)
  · rw [evalOrNull, ← eval_chosen, exactly.1 notFinite]
    rfl

/-- In one branch stands a numeral that is too large, in the other one a product. Only the branch with
the numeral is infinite: the product overflows and is null, and alone it is finite in any case. -/
theorem values_finite_in_range_branches :
    let high : Row := [("a", .ofInt 10)]
    let low : Row := [("a", .ofInt 9)]
    ∃ expr product,
      parse "a > 9 ? 1e400 : 1e308 * a" = .ok expr ∧ parse "1e308 * a" = .ok product ∧
        high.Finite ∧ low.Finite ∧
        TooLarge "a > 9 ? 1e400 : 1e308 * a" ∧ ¬TooLarge "1e308 * a" ∧
        expr.evalOrNull high = .infinite ∧ (expr.evalOrNull low).Finite ∧
        (product.evalOrNull high).Finite := by
  intro high low
  have evaluated :
      ((parse "a > 9 ? 1e400 : 1e308 * a").toOption.map fun expr =>
        (expr.literals.any (·.isInfinite),
          (expr.evalOrNull [("a", .ofInt 10)]).isInfinite,
          (expr.evalOrNull [("a", .ofInt 9)]).isInfinite)) = some (true, true, false) := by
    decide +kernel
  have product : ((parse "1e308 * a").toOption.map fun expr =>
      expr.literals.any (·.isInfinite)) = some false := by
    decide +kernel
  have rowFinite (n : Int) : Row.Finite [("a", .ofInt n)] := by
    refine .obj fun member isMember => ?_
    cases List.mem_singleton.1 isMember
    exact .num rfl
  rcases Outcome.toOption_map_eq_some_iff.1 evaluated with ⟨expr, parsed, results⟩
  rcases Outcome.toOption_map_eq_some_iff.1 product with ⟨product, productParsed, noneInfinite⟩
  rw [Prod.mk.injEq, Prod.mk.injEq] at results
  rcases results with ⟨someInfinite, atHigh, atLow⟩
  rcases values_finite_in_range parsed with ⟨atNumeral, onRows⟩
  rcases values_finite_in_range productParsed with ⟨productNumeral, productOnRows⟩
  have tooLarge : TooLarge "a > 9 ? 1e400 : 1e308 * a" := by
    rcases List.any_eq_true.1 someInfinite with ⟨value, member, infinite⟩
    exact atNumeral.1 ((Value.isInfinite_iff value).1 infinite ▸ member)
  have inRange : ¬TooLarge "1e308 * a" := by
    intro tooLarge
    have infinite := List.any_eq_false.1 noneInfinite _ (productNumeral.2 tooLarge)
    exact infinite ((Value.isInfinite_iff _).2 rfl)
  refine ⟨expr, product, parsed, productParsed, rowFinite 10, rowFinite 9, tooLarge, inRange,
    (Value.isInfinite_iff _).1 atHigh, ?_, (productOnRows high (rowFinite 10)).1 inRange⟩
  by_contra notFinite
  have infinite := (Value.isInfinite_iff _).2 ((onRows low (rowFinite 9)).2.2 notFinite)
  cases infinite.symm.trans atLow

/-- A numeral beyond the range of the doubles is infinite as the value of an expression, which needs no
field at all. -/
theorem numeral_beyond_range_infinite :
    ∃ expr, parse "1e400" = .ok expr ∧ Row.Finite [] ∧ expr.evalOrNull [] = .infinite ∧
      ¬(expr.evalOrNull []).Finite := by
  have evaluated :
      ((parse "1e400").toOption.map fun expr => (expr.evalOrNull []).isInfinite) = some true := by
    decide +kernel
  rcases Outcome.toOption_map_eq_some_iff.1 evaluated with ⟨expr, parsed, infinite⟩
  rw [Value.isInfinite_iff] at infinite
  exact ⟨expr, parsed, .obj nofun, infinite, infinite ▸ Value.not_finite_infinite⟩

end Expr

end RowPlan
