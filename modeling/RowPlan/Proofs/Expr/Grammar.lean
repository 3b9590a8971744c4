import RowPlan.Expr.Parser

/-!
# The grammar of expressions

The grammar as derivations, independent of any way of reading: `Derives category tokens expr` says
that the tokens form an expression of the category and that its tree is `expr`. The categories are
ordered from the loosest to the tightest, every one contains the next, and chains grow at their right
end, so that their trees lean to the left.

A derivation never uses the marker at the end of a token list, and only derivations of negations and
looser categories can start with `not`. Where a category may be continued is read off
`joins`; a token list that offers no such continuation stops the category.
-/

namespace RowPlan.Grammar

/-- The categories of the grammar, from the loosest to the tightest. -/
inductive Category where
  | ternary
  | disjunction
  | conjunction
  | negation
  | comparison
  | sum
  | product
  | signed
  | primary
deriving DecidableEq

/-- How tightly a category binds. -/
def Category.rank : Category → Nat
  | .ternary => 0
  | .disjunction => 1
  | .conjunction => 2
  | .negation => 3
  | .comparison => 4
  | .sum => 5
  | .product => 6
  | .signed => 7
  | .primary => 8

/-- The tokens form an expression of the category with the given tree. -/
inductive Derives : Category → List Token → Expr → Prop where
  | ternaryPlain {tokens expr} :
      Derives .disjunction tokens expr → Derives .ternary tokens expr
  | ternary {conditionTokens trueTokens falseTokens condition whenTrue whenFalse}
      {question colon : Nat} :
      Derives .disjunction conditionTokens condition →
      Derives .ternary trueTokens whenTrue →
      Derives .ternary falseTokens whenFalse →
      Derives .ternary
        (conditionTokens ++ ⟨.symbol .question, question⟩ ::
          (trueTokens ++ ⟨.symbol .colon, colon⟩ :: falseTokens))
        (.ternary condition whenTrue whenFalse)
  | disjunctionPlain {tokens expr} :
      Derives .conjunction tokens expr → Derives .disjunction tokens expr
  | disjunction {leftTokens rightTokens left right} {position : Nat} :
      Derives .disjunction leftTokens left →
      Derives .conjunction rightTokens right →
      Derives .disjunction (leftTokens ++ ⟨.symbol .or, position⟩ :: rightTokens)
        (.binary .or left right)
  | conjunctionPlain {tokens expr} :
      Derives .negation tokens expr → Derives .conjunction tokens expr
  | conjunction {leftTokens rightTokens left right} {position : Nat} :
      Derives .conjunction leftTokens left →
      Derives .negation rightTokens right →
      Derives .conjunction (leftTokens ++ ⟨.symbol .and, position⟩ :: rightTokens)
        (.binary .and left right)
  | negationPlain {tokens expr} :
      Derives .comparison tokens expr → Derives .negation tokens expr
  | negation {tokens operand} {position : Nat} :
      Derives .negation tokens operand →
      Derives .negation (⟨.symbol .not, position⟩ :: tokens) (.not operand)
  | comparisonPlain {tokens expr} :
      Derives .sum tokens expr → Derives .comparison tokens expr
  | comparison {leftTokens rightTokens left right} {op : Comparison} {position : Nat} :
      Derives .sum leftTokens left →
      Derives .sum rightTokens right →
      Derives .comparison (leftTokens ++ ⟨.symbol (.compare op), position⟩ :: rightTokens)
        (.binary (.compare op) left right)
  | sumPlain {tokens expr} :
      Derives .product tokens expr → Derives .sum tokens expr
  | sum {leftTokens rightTokens left right} {op : Arithmetic} {position : Nat} :
      op = .add ∨ op = .sub →
      Derives .sum leftTokens left →
      Derives .product rightTokens right →
      Derives .sum (leftTokens ++ ⟨.symbol (.compute op), position⟩ :: rightTokens)
        (.binary (.compute op) left right)
  | productPlain {tokens expr} :
      Derives .signed tokens expr → Derives .product tokens expr
  | product {leftTokens rightTokens left right} {op : Arithmetic} {position : Nat} :
      op = .mul ∨ op = .div ∨ op = .mod →
      Derives .product leftTokens left →
      Derives .signed rightTokens right →
      Derives .product (leftTokens ++ ⟨.symbol (.compute op), position⟩ :: rightTokens)
        (.binary (.compute op) left right)
  | signedPlain {tokens expr} :
      Derives .primary tokens expr → Derives .signed tokens expr
  | minus {tokens operand} {position : Nat} :
      Derives .signed tokens operand →
      Derives .signed (⟨.symbol (.compute .sub), position⟩ :: tokens) (.neg operand)
  | plus {tokens operand} {position : Nat} :
      Derives .signed tokens operand →
      Derives .signed (⟨.symbol (.compute .add), position⟩ :: tokens) operand
  | number {n position} : Derives .primary [⟨.number n, position⟩] (.literal (.num n))
  | quoted {text position} : Derives .primary [⟨.quoted text, position⟩] (.literal (.str text))
  | word {value position} : Derives .primary [⟨.word value, position⟩] (.literal value)
  | name {name position} : Derives .primary [⟨.name name, position⟩] (.field name)
  | field {name position} : Derives .primary [⟨.field name, position⟩] (.field name)
  | parentheses {tokens expr} {opening closing : Nat} :
      Derives .ternary tokens expr →
      Derives .primary
        (⟨.symbol .opening, opening⟩ :: (tokens ++ [⟨.symbol .closing, closing⟩])) expr

/-! ## The tokens of a derivation -/

theorem Derives.kind_ne_finish
    {category : Category} {tokens : List Token} {expr : Expr}
    (derivation : Derives category tokens expr) :
    ∀ token ∈ tokens, token.kind ≠ .finish := by
  induction derivation with
  | ternaryPlain _ inner => exact inner
  | disjunctionPlain _ inner => exact inner
  | conjunctionPlain _ inner => exact inner
  | negationPlain _ inner => exact inner
  | comparisonPlain _ inner => exact inner
  | sumPlain _ inner => exact inner
  | productPlain _ inner => exact inner
  | signedPlain _ inner => exact inner
  | ternary _ _ _ condition whenTrue whenFalse =>
      simp only [List.forall_mem_append, List.forall_mem_cons]
      exact ⟨condition, nofun, whenTrue, nofun, whenFalse⟩
  | disjunction _ _ left right
  | conjunction _ _ left right
  | comparison _ _ left right
  | sum _ _ _ left right
  | product _ _ _ left right =>
      simp only [List.forall_mem_append, List.forall_mem_cons]
      exact ⟨left, nofun, right⟩
  | negation _ inner
  | minus _ inner
  | plus _ inner =>
      simp only [List.forall_mem_cons]
      exact ⟨nofun, inner⟩
  | parentheses _ inner =>
      simp only [List.forall_mem_append, List.forall_mem_cons]
      exact ⟨nofun, inner, nofun, nofun⟩
  | number | quoted | word | name | field =>
      simp

/-- The tokens that an expression of a category can start with. -/
def Category.opens (category : Category) : TokenKind → Prop
  | .finish => False
  | .symbol .opening => True
  | .symbol .not => category.rank ≤ Category.negation.rank
  | .symbol (.compute .add) => category.rank ≤ Category.signed.rank
  | .symbol (.compute .sub) => category.rank ≤ Category.signed.rank
  | .symbol _ => False
  | _ => True

/-- A looser category can start with whatever a tighter one can start with. -/
theorem Category.opens_of_rank_le
    {loose tight : Category} (looser : loose.rank ≤ tight.rank)
    {kind : TokenKind} (opens : tight.opens kind) :
    loose.opens kind := by
  unfold Category.opens at opens ⊢
  split at opens <;> first | exact opens | exact Nat.le_trans looser opens

/-- Every derivation has a first token, and one that its category can start with. -/
theorem Derives.opens_head
    {category : Category} {tokens : List Token} {expr : Expr}
    (derivation : Derives category tokens expr) :
    ∃ token rest, tokens = token :: rest ∧ category.opens token.kind := by
  induction derivation with
  | ternaryPlain _ inner
  | disjunctionPlain _ inner
  | conjunctionPlain _ inner
  | negationPlain _ inner
  | comparisonPlain _ inner
  | sumPlain _ inner
  | productPlain _ inner
  | signedPlain _ inner =>
      rcases inner with ⟨token, rest, rfl, opens⟩
      exact ⟨token, rest, rfl, Category.opens_of_rank_le (by decide) opens⟩
  | ternary _ _ _ left
  | disjunction _ _ left
  | conjunction _ _ left
  | comparison _ _ left
  | sum _ _ _ left
  | product _ _ _ left =>
      rcases left with ⟨token, rest, rfl, opens⟩
      exact ⟨token, _, rfl, Category.opens_of_rank_le (by decide) opens⟩
  | negation => exact ⟨_, _, rfl, Nat.le_refl _⟩
  | minus => exact ⟨_, _, rfl, Nat.le_refl _⟩
  | plus => exact ⟨_, _, rfl, Nat.le_refl _⟩
  | number | quoted | word | name | field | parentheses =>
      exact ⟨_, _, rfl, trivial⟩

/-! ## Where an expression stops -/

/-- The category whose expressions a symbol continues, if it continues any. -/
def joins : Symbol → Option Category
  | .question => some .ternary
  | .or => some .disjunction
  | .and => some .conjunction
  | .compare _ => some .comparison
  | .compute .add => some .sum
  | .compute .sub => some .sum
  | .compute .mul => some .product
  | .compute .div => some .product
  | .compute .mod => some .product
  | _ => none

/-- The remaining tokens do not continue an expression of the category, nor one of a tighter category
at its end. -/
def Stops (category : Category) (rest : List Token) : Prop :=
  ∀ symbol position after joined,
    rest = ⟨.symbol symbol, position⟩ :: after →
      joins symbol = some joined → joined.rank < category.rank

/-- What stops a looser category stops a tighter one. -/
theorem Stops.tighten
    {loose tight : Category} (looser : loose.rank ≤ tight.rank)
    {rest : List Token} (stops : Stops loose rest) :
    Stops tight rest := by
  intro symbol position after joined shape joining
  exact Nat.lt_of_lt_of_le (stops symbol position after joined shape joining) looser

/-- A symbol that continues only looser categories stops a category. -/
theorem Stops.of_symbol
    {category : Category} {symbol : Symbol} {position : Nat} {rest : List Token}
    (loose : ∀ joined, joins symbol = some joined → joined.rank < category.rank) :
    Stops category (⟨.symbol symbol, position⟩ :: rest) := by
  intro other otherPosition after joined shape joining
  cases shape
  exact loose joined joining

theorem Stops.finish (category : Category) (position : Nat) (rest : List Token) :
    Stops category (⟨.finish, position⟩ :: rest) := by
  intro symbol otherPosition after joined shape
  cases shape

end RowPlan.Grammar
