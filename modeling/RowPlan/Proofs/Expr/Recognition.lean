import RowPlan.Proofs.Expr.Grammar
import RowPlan.Proofs.Expr.Scanner
import RowPlan.Proofs.Outcome

/-!
# Parsing recognises the grammar

Every parser combinator is matched with the category that it reads. A parser is sound for a category
when whatever it takes off a token list is derivable there, with the tree that it returns; it is
complete up to a bound when it takes every derivable list of at most that many tokens off any token
list that goes on with a stop of the category. Both properties pass from the parser of a category to
the parser of the next looser one, so that they follow for ternaries by induction on the nesting.

Completeness is where greed has to be harmless: a loop takes every operator of its level that it
meets, and the stops make sure that none of them belongs to a caller.
-/

namespace RowPlan.Grammar

open ExprParser

/-- Whatever the parser takes off a token list is derivable in the category. -/
def Sound (category : Category) (parser : ExprParser) : Prop :=
  ∀ tokens expr rest, parser tokens = .ok (expr, rest) →
    ∃ consumed, tokens = consumed ++ rest ∧ Derives category consumed expr

/-- The parser takes every derivable list of at most `bound` tokens off a token list, if a stop of the
category comes next. -/
def Complete (category : Category) (bound : Nat) (parser : ExprParser) : Prop :=
  ∀ tokens expr rest, Derives category tokens expr → tokens.length ≤ bound →
    Stops category rest → parser (tokens ++ rest) = .ok (expr, rest)

theorem Complete.mono
    {category : Category} {small large : Nat} {parser : ExprParser}
    (complete : Complete category large parser) (smaller : small ≤ large) :
    Complete category small parser := by
  intro tokens expr rest derivation short stops
  exact complete tokens expr rest derivation (Nat.le_trans short smaller) stops

/-- A symbol is taken off exactly when it comes next. -/
theorem expect_eq_ok_iff
    {symbol : Symbol} {tokens rest : List Token} :
    expect symbol tokens = .ok rest ↔
      ∃ position, tokens = ⟨.symbol symbol, position⟩ :: rest := by
  unfold expect
  split
  · rename_i found position after
    split
    · rename_i same
      subst same
      constructor
      · intro taken
        cases taken
        exact ⟨position, rfl⟩
      · rintro ⟨_, shape⟩
        cases shape
        rfl
    · rename_i different
      constructor
      · intro taken
        cases taken
      · rintro ⟨_, shape⟩
        cases shape
        exact absurd rfl different
  · rename_i noSymbol
    constructor
    · intro taken
      cases taken
    · rintro ⟨position, shape⟩
      exact absurd shape (noSymbol symbol position rest)

/-! ## Primaries -/

theorem Sound.primary
    {nested : ExprParser} (nestedSound : Sound .ternary nested) :
    Sound .primary (ExprParser.primary nested) := by
  intro tokens expr rest read
  unfold ExprParser.primary at read
  split at read
  · cases read
    exact ⟨_, rfl, .number⟩
  · cases read
    exact ⟨_, rfl, .quoted⟩
  · cases read
    exact ⟨_, rfl, .word⟩
  · cases read
    exact ⟨_, rfl, .name⟩
  · cases read
    exact ⟨_, rfl, .field⟩
  · rename_i opening afterOpening
    split at read
    · cases read
    · rename_i inner afterInner innerRead
      rcases Outcome.map_eq_ok_iff.1 read with ⟨after, closed, result⟩
      cases result
      rcases expect_eq_ok_iff.1 closed with ⟨closing, rfl⟩
      rcases nestedSound _ _ _ innerRead with ⟨consumed, rfl, derivation⟩
      exact ⟨⟨.symbol .opening, opening⟩ :: (consumed ++ [⟨.symbol .closing, closing⟩]),
        by simp, .parentheses derivation⟩
  · cases read
  · cases read

theorem Complete.primary
    {nested : ExprParser} {bound : Nat} (nestedComplete : Complete .ternary bound nested) :
    Complete .primary (bound + 2) (ExprParser.primary nested) := by
  intro tokens expr rest derivation short _
  cases derivation with
  | number => rfl
  | quoted => rfl
  | word => rfl
  | name => rfl
  | field => rfl
  | @parentheses inner _ opening closing innerDerivation =>
      have innerShort : inner.length ≤ bound := by
        simp only [List.length_cons, List.length_append, List.length_nil] at short
        omega
      have innerRead :
          nested (inner ++ ⟨.symbol .closing, closing⟩ :: rest) =
            .ok (expr, ⟨.symbol .closing, closing⟩ :: rest) :=
        nestedComplete inner expr _ innerDerivation innerShort
          (Stops.of_symbol nofun)
      have closed :
          expect .closing (⟨.symbol .closing, closing⟩ :: rest) = .ok rest :=
        expect_eq_ok_iff.2 ⟨closing, rfl⟩
      simp only [List.cons_append, List.append_assoc, List.nil_append, ExprParser.primary,
        innerRead, closed, Except.map]

/-! ## Signs and negations -/

theorem Sound.signed
    {operand : ExprParser} (operandSound : Sound .primary operand) :
    Sound .signed (ExprParser.signed operand) := by
  intro tokens expr rest read
  induction tokens using ExprParser.signed.induct generalizing expr with
  | case1 position after inner =>
      rw [ExprParser.signed] at read
      rcases Outcome.map_eq_ok_iff.1 read with ⟨⟨negated, _⟩, innerRead, result⟩
      cases result
      rcases inner negated innerRead with ⟨consumed, rfl, derivation⟩
      exact ⟨_ :: consumed, rfl, .minus derivation⟩
  | case2 position after inner =>
      rw [ExprParser.signed] at read
      rcases inner expr read with ⟨consumed, rfl, derivation⟩
      exact ⟨_ :: consumed, rfl, .plus derivation⟩
  | case3 tokens notMinus notPlus =>
      rw [ExprParser.signed] at read
      · rcases operandSound _ _ _ read with ⟨consumed, rfl, derivation⟩
        exact ⟨consumed, rfl, .signedPlain derivation⟩
      · exact notMinus
      · exact notPlus

/-- A signed operand is a primary, or a sign and a signed operand; a plus sign leaves no trace. -/
theorem signed_cases
    {tokens : List Token} {expr : Expr} (derivation : Derives .signed tokens expr) :
    Derives .primary tokens expr ∨
      (∃ position rest operand, tokens = ⟨.symbol (.compute .sub), position⟩ :: rest ∧
        expr = .neg operand ∧ Derives .signed rest operand) ∨
      ∃ position rest, tokens = ⟨.symbol (.compute .add), position⟩ :: rest ∧
        Derives .signed rest expr := by
  cases derivation with
  | signedPlain inner => exact .inl inner
  | minus inner => exact .inr (.inl ⟨_, _, _, rfl, rfl, inner⟩)
  | plus inner => exact .inr (.inr ⟨_, _, rfl, inner⟩)

theorem Complete.signed
    {operand : ExprParser} {bound : Nat} (operandComplete : Complete .primary bound operand) :
    Complete .signed bound (ExprParser.signed operand) := by
  intro tokens
  induction tokens with
  | nil =>
      intro expr rest derivation
      rcases derivation.opens_head with ⟨token, after, shape, _⟩
      cases shape
  | cons token tail inner =>
      intro expr rest derivation short stops
      have tailShort : tail.length ≤ bound := by
        simp only [List.length_cons] at short
        omega
      rcases signed_cases derivation with primary | ⟨position, _, operand, shape, rfl, minus⟩ |
        ⟨position, _, shape, plus⟩
      · -- A primary cannot start with a sign, so the loop over signs ends at once.
        rcases primary.opens_head with ⟨_, _, shape, opens⟩
        cases shape
        rw [List.cons_append, ExprParser.signed]
        · exact operandComplete _ expr rest primary short (stops.tighten (by decide))
        · rintro position after ⟨⟩
          have impossible : Category.primary.rank ≤ Category.signed.rank := opens
          exact absurd impossible (by decide)
        · rintro position after ⟨⟩
          have impossible : Category.primary.rank ≤ Category.signed.rank := opens
          exact absurd impossible (by decide)
      · cases shape
        rw [List.cons_append, ExprParser.signed, inner operand rest minus tailShort stops]
        rfl
      · cases shape
        rw [List.cons_append, ExprParser.signed, inner expr rest plus tailShort stops]

theorem Sound.negated
    {operand : ExprParser} (operandSound : Sound .comparison operand) :
    Sound .negation (ExprParser.negated operand) := by
  intro tokens expr rest read
  induction tokens using ExprParser.negated.induct generalizing expr with
  | case1 position after inner =>
      rw [ExprParser.negated] at read
      rcases Outcome.map_eq_ok_iff.1 read with ⟨⟨negated, _⟩, innerRead, result⟩
      cases result
      rcases inner negated innerRead with ⟨consumed, rfl, derivation⟩
      exact ⟨_ :: consumed, rfl, .negation derivation⟩
  | case2 tokens notNot =>
      rw [ExprParser.negated] at read
      · rcases operandSound _ _ _ read with ⟨consumed, rfl, derivation⟩
        exact ⟨consumed, rfl, .negationPlain derivation⟩
      · exact notNot

theorem negation_cases
    {tokens : List Token} {expr : Expr} (derivation : Derives .negation tokens expr) :
    Derives .comparison tokens expr ∨
      ∃ position rest operand, tokens = ⟨.symbol .not, position⟩ :: rest ∧
        expr = .not operand ∧ Derives .negation rest operand := by
  cases derivation with
  | negationPlain inner => exact .inl inner
  | negation inner => exact .inr ⟨_, _, _, rfl, rfl, inner⟩

theorem Complete.negated
    {operand : ExprParser} {bound : Nat} (operandComplete : Complete .comparison bound operand) :
    Complete .negation bound (ExprParser.negated operand) := by
  intro tokens
  induction tokens with
  | nil =>
      intro expr rest derivation
      rcases derivation.opens_head with ⟨token, after, shape, _⟩
      cases shape
  | cons token tail inner =>
      intro expr rest derivation short stops
      have tailShort : tail.length ≤ bound := by
        simp only [List.length_cons] at short
        omega
      rcases negation_cases derivation with comparison | ⟨position, _, operand, shape, rfl, negated⟩
      · rcases comparison.opens_head with ⟨_, _, shape, opens⟩
        cases shape
        rw [List.cons_append, ExprParser.negated]
        · exact operandComplete _ expr rest comparison short (stops.tighten (by decide))
        · rintro position after ⟨⟩
          have impossible : Category.comparison.rank ≤ Category.negation.rank := opens
          exact absurd impossible (by decide)
      · cases shape
        rw [List.cons_append, ExprParser.negated, inner operand rest negated tailShort stops]
        rfl

/-! ## Chains -/

/-- The two rules of a category of chains: an operand alone, or a chain, an operator of the level and
one more operand; and nothing else. -/
structure Chains (level operandLevel : Category) (operator? : Symbol → Option BinaryOp) : Prop where
  tighter : level.rank < operandLevel.rank
  joins_iff : ∀ symbol, joins symbol = some level ↔ (operator? symbol).isSome
  plain : ∀ {tokens expr}, Derives operandLevel tokens expr → Derives level tokens expr
  extend : ∀ {symbol op leftTokens rightTokens left right} {position : Nat},
    operator? symbol = some op → Derives level leftTokens left →
      Derives operandLevel rightTokens right →
        Derives level (leftTokens ++ ⟨.symbol symbol, position⟩ :: rightTokens)
          (.binary op left right)
  cases : ∀ {tokens expr}, Derives level tokens expr →
    Derives operandLevel tokens expr ∨
      ∃ symbol op leftTokens rightTokens left right position, operator? symbol = some op ∧
        Derives level leftTokens left ∧ Derives operandLevel rightTokens right ∧
        tokens = leftTokens ++ ⟨.symbol symbol, position⟩ :: rightTokens ∧
        expr = .binary op left right

/-- The loop of a chain extends what has been derived before it. -/
theorem Chains.sound_chainFrom
    {level operandLevel : Category} {operator? : Symbol → Option BinaryOp}
    (chains : Chains level operandLevel operator?)
    {operand : ExprParser} (operandSound : Sound operandLevel operand)
    {limit : Nat} {left : Expr} {tokens : List Token} {expr : Expr} {rest : List Token}
    (read : chainFrom operator? operand limit left tokens = .ok (expr, rest))
    {before : List Token} (leftDerivation : Derives level before left) :
    ∃ consumed, tokens = consumed ++ rest ∧ Derives level (before ++ consumed) expr := by
  induction limit generalizing left tokens before with
  | zero =>
      cases read
      exact ⟨[], rfl, by simpa using leftDerivation⟩
  | succ limit continued =>
      unfold chainFrom at read
      split at read
      · rename_i smaller symbol position after sameLimit
        cases sameLimit
        split at read
        · rename_i op operator
          split at read
          · cases read
          · rename_i right afterRight operandRead
            rcases operandSound _ _ _ operandRead with ⟨rightTokens, rfl, rightDerivation⟩
            rcases continued read (chains.extend operator leftDerivation rightDerivation) with
              ⟨more, rfl, derivation⟩
            exact ⟨⟨.symbol symbol, position⟩ :: rightTokens ++ more, by simp,
              by simpa using derivation⟩
        · cases read
          exact ⟨[], rfl, by simpa using leftDerivation⟩
      · cases read
        exact ⟨[], rfl, by simpa using leftDerivation⟩

theorem Chains.sound
    {level operandLevel : Category} {operator? : Symbol → Option BinaryOp}
    (chains : Chains level operandLevel operator?)
    {operand : ExprParser} (operandSound : Sound operandLevel operand) :
    Sound level (chain operator? operand) := by
  intro tokens expr rest read
  rw [chain] at read
  split at read
  · cases read
  · rename_i first afterFirst firstRead
    rcases operandSound _ _ _ firstRead with ⟨firstTokens, rfl, firstDerivation⟩
    rcases chains.sound_chainFrom operandSound read (chains.plain firstDerivation) with
      ⟨more, rfl, derivation⟩
    exact ⟨firstTokens ++ more, by simp, derivation⟩

/-- After the tokens of a chain the loop stands at the tree of that chain, with enough of its limit
left for the tokens that remain. -/
theorem Chains.chain_append
    {level operandLevel : Category} {operator? : Symbol → Option BinaryOp}
    (chains : Chains level operandLevel operator?)
    {operand : ExprParser} {bound : Nat} (operandComplete : Complete operandLevel bound operand)
    {tokens : List Token} {expr : Expr} (derivation : Derives level tokens expr)
    (short : tokens.length ≤ bound)
    {rest : List Token} (stops : Stops operandLevel rest) :
    ∃ limit, rest.length ≤ limit ∧
      chain operator? operand (tokens ++ rest) = chainFrom operator? operand limit expr rest := by
  -- The induction is on the length, since the chain before the last operator is a shorter one.
  induction length : tokens.length using Nat.strongRecOn generalizing tokens expr rest with
  | _ size shorter =>
      rcases chains.cases derivation with alone | ⟨symbol, op, leftTokens, rightTokens, left, right,
        position, operator, leftDerivation, rightDerivation, rfl, rfl⟩
      · have read := operandComplete tokens expr rest alone short stops
        exact ⟨rest.length, Nat.le_refl _, by simp only [chain, read]⟩
      · simp only [List.length_append, List.length_cons] at short length
        have operatorStops :
            Stops operandLevel (⟨.symbol symbol, position⟩ :: (rightTokens ++ rest)) := by
          apply Stops.of_symbol
          intro joined joining
          have joinsLevel : joins symbol = some level :=
            (chains.joins_iff symbol).2 (by simp [operator])
          cases joining.symm.trans joinsLevel
          exact chains.tighter
        rcases shorter leftTokens.length (by omega) leftDerivation (by omega) operatorStops rfl with
          ⟨limit, enough, leftRead⟩
        have rightRead := operandComplete rightTokens right rest rightDerivation (by omega) stops
        simp only [List.length_cons, List.length_append] at enough
        obtain ⟨smaller, rfl⟩ : ∃ smaller, limit = smaller + 1 := ⟨limit - 1, by omega⟩
        refine ⟨smaller, by omega, ?_⟩
        rw [List.append_assoc, List.cons_append, leftRead, chainFrom, operator]
        simp only [rightRead]

theorem Chains.complete
    {level operandLevel : Category} {operator? : Symbol → Option BinaryOp}
    (chains : Chains level operandLevel operator?)
    {operand : ExprParser} {bound : Nat} (operandComplete : Complete operandLevel bound operand) :
    Complete level bound (chain operator? operand) := by
  intro tokens expr rest derivation short stops
  rcases
      chains.chain_append operandComplete derivation short
        (stops.tighten (Nat.le_of_lt chains.tighter)) with
    ⟨limit, _, read⟩
  rw [read]
  unfold chainFrom
  split
  · rename_i symbol position after _
    split
    · rename_i op operator
      have joinsLevel : joins symbol = some level :=
        (chains.joins_iff symbol).2 (by simp [operator])
      exact absurd (stops symbol position after level rfl joinsLevel) (Nat.lt_irrefl _)
    · rfl
  · rfl

theorem productChains : Chains .product .signed productOp? where
  tighter := by decide
  joins_iff := by
    intro symbol
    cases symbol with
    | compute op => cases op <;> decide
    | _ => simp [joins, productOp?]
  plain := .productPlain
  extend := by
    intro symbol op leftTokens rightTokens left right position operator leftDerivation
      rightDerivation
    unfold productOp? at operator
    split at operator <;> cases operator <;>
      exact .product (by decide) leftDerivation rightDerivation
  cases := by
    intro tokens expr derivation
    cases derivation with
    | productPlain inner => exact .inl inner
    | @product leftTokens rightTokens left right op position level leftDerivation
        rightDerivation =>
        refine .inr ⟨_, .compute op, leftTokens, rightTokens, left, right, position, ?_,
          leftDerivation, rightDerivation, rfl, rfl⟩
        rcases level with rfl | rfl | rfl <;> rfl

theorem sumChains : Chains .sum .product sumOp? where
  tighter := by decide
  joins_iff := by
    intro symbol
    cases symbol with
    | compute op => cases op <;> decide
    | _ => simp [joins, sumOp?]
  plain := .sumPlain
  extend := by
    intro symbol op leftTokens rightTokens left right position operator leftDerivation
      rightDerivation
    unfold sumOp? at operator
    split at operator <;> cases operator <;>
      exact .sum (by decide) leftDerivation rightDerivation
  cases := by
    intro tokens expr derivation
    cases derivation with
    | sumPlain inner => exact .inl inner
    | @sum leftTokens rightTokens left right op position level leftDerivation
        rightDerivation =>
        refine .inr ⟨_, .compute op, leftTokens, rightTokens, left, right, position, ?_,
          leftDerivation, rightDerivation, rfl, rfl⟩
        rcases level with rfl | rfl <;> rfl

theorem conjunctionChains : Chains .conjunction .negation andOp? where
  tighter := by decide
  joins_iff := by
    intro symbol
    cases symbol with
    | compute op => cases op <;> decide
    | _ => simp [joins, andOp?]
  plain := .conjunctionPlain
  extend := by
    intro symbol op leftTokens rightTokens left right position operator leftDerivation
      rightDerivation
    unfold andOp? at operator
    split at operator <;> cases operator
    exact .conjunction leftDerivation rightDerivation
  cases := by
    intro tokens expr derivation
    cases derivation with
    | conjunctionPlain inner => exact .inl inner
    | conjunction leftDerivation rightDerivation =>
        exact .inr ⟨.and, .and, _, _, _, _, _, rfl, leftDerivation, rightDerivation, rfl, rfl⟩

theorem disjunctionChains : Chains .disjunction .conjunction orOp? where
  tighter := by decide
  joins_iff := by
    intro symbol
    cases symbol with
    | compute op => cases op <;> decide
    | _ => simp [joins, orOp?]
  plain := .disjunctionPlain
  extend := by
    intro symbol op leftTokens rightTokens left right position operator leftDerivation
      rightDerivation
    unfold orOp? at operator
    split at operator <;> cases operator
    exact .disjunction leftDerivation rightDerivation
  cases := by
    intro tokens expr derivation
    cases derivation with
    | disjunctionPlain inner => exact .inl inner
    | disjunction leftDerivation rightDerivation =>
        exact .inr ⟨.or, .or, _, _, _, _, _, rfl, leftDerivation, rightDerivation, rfl, rfl⟩

/-! ## Comparisons -/

theorem Sound.compared
    {operand : ExprParser} (operandSound : Sound .sum operand) :
    Sound .comparison (ExprParser.compared operand) := by
  intro tokens expr rest read
  rw [ExprParser.compared] at read
  split at read
  · cases read
  · rename_i left op position afterOp leftRead
    rcases Outcome.map_eq_ok_iff.1 read with ⟨⟨right, _⟩, rightRead, result⟩
    cases result
    rcases operandSound _ _ _ leftRead with ⟨leftTokens, rfl, leftDerivation⟩
    rcases operandSound _ _ _ rightRead with ⟨rightTokens, rfl, rightDerivation⟩
    exact ⟨leftTokens ++ ⟨.symbol (.compare op), position⟩ :: rightTokens, by simp,
      .comparison leftDerivation rightDerivation⟩
  · rename_i left afterLeft _ leftRead
    cases read
    rcases operandSound _ _ _ leftRead with ⟨consumed, rfl, derivation⟩
    exact ⟨consumed, rfl, .comparisonPlain derivation⟩

theorem Complete.compared
    {operand : ExprParser} {bound : Nat} (operandComplete : Complete .sum bound operand) :
    Complete .comparison bound (ExprParser.compared operand) := by
  intro tokens expr rest derivation short stops
  cases derivation with
  | comparisonPlain inner =>
      have read := operandComplete tokens expr rest inner short (stops.tighten (by decide))
      rw [ExprParser.compared]
      rw [read]
      split
      · rename_i failed
        cases failed
      · -- A comparison operator in front would continue the comparison, against its stop.
        rename_i left op position afterOp result
        cases result
        exact absurd (stops (.compare op) position afterOp .comparison rfl rfl) (by decide)
      · rename_i result
        cases result
        rfl
  | @comparison leftTokens rightTokens left right op position leftDerivation rightDerivation =>
      simp only [List.length_append, List.length_cons] at short
      have operatorStops :
          Stops .sum (⟨.symbol (.compare op), position⟩ :: (rightTokens ++ rest)) := by
        apply Stops.of_symbol
        intro joined joining
        cases joining
        decide
      have leftRead := operandComplete leftTokens left _ leftDerivation (by omega) operatorStops
      have rightRead :=
        operandComplete rightTokens right rest rightDerivation (by omega)
          (stops.tighten (by decide))
      simp only [List.append_assoc, List.cons_append, ExprParser.compared, leftRead, rightRead,
        Except.map]

/-! ## Ternaries -/

theorem Sound.disjunction
    {nested : ExprParser} (nestedSound : Sound .ternary nested) :
    Sound .disjunction (ExprParser.disjunction nested) :=
  disjunctionChains.sound (conjunctionChains.sound (Sound.negated (Sound.compared
    (sumChains.sound (productChains.sound (Sound.signed (Sound.primary nestedSound)))))))

theorem Complete.disjunction
    {nested : ExprParser} {bound : Nat} (nestedComplete : Complete .ternary bound nested) :
    Complete .disjunction (bound + 2) (ExprParser.disjunction nested) :=
  disjunctionChains.complete (conjunctionChains.complete (Complete.negated (Complete.compared
    (sumChains.complete (productChains.complete
      (Complete.signed (Complete.primary nestedComplete)))))))

/-- Whatever the depth, a ternary that is read is derivable. -/
theorem sound_ternary (depth : Nat) : Sound .ternary (ExprParser.ternary depth) := by
  induction depth with
  | zero =>
      intro tokens expr rest read
      cases read
  | succ depth nestedSound =>
      intro tokens expr rest read
      unfold ExprParser.ternary at read
      split at read
      · cases read
      · rename_i condition question afterQuestion conditionRead
        rcases Outcome.bind_eq_ok_iff.1 read with ⟨⟨whenTrue, beforeColon⟩, trueRead, read⟩
        rcases Outcome.bind_eq_ok_iff.1 read with ⟨afterColon, colonTaken, read⟩
        rcases Outcome.bind_eq_ok_iff.1 read with ⟨⟨whenFalse, _⟩, falseRead, result⟩
        cases result
        rcases nestedSound.disjunction _ _ _ conditionRead with
          ⟨conditionTokens, rfl, conditionDerivation⟩
        rcases nestedSound _ _ _ trueRead with ⟨trueTokens, rfl, trueDerivation⟩
        rcases expect_eq_ok_iff.1 colonTaken with ⟨colon, rfl⟩
        rcases nestedSound _ _ _ falseRead with ⟨falseTokens, rfl, falseDerivation⟩
        exact ⟨conditionTokens ++ ⟨.symbol .question, question⟩ ::
            (trueTokens ++ ⟨.symbol .colon, colon⟩ :: falseTokens), by simp,
          .ternary conditionDerivation trueDerivation falseDerivation⟩
      · rename_i condition afterCondition _ conditionRead
        cases read
        rcases nestedSound.disjunction _ _ _ conditionRead with ⟨consumed, rfl, derivation⟩
        exact ⟨consumed, rfl, .ternaryPlain derivation⟩

/-- A depth of as many levels as there are tokens is enough. -/
theorem complete_ternary (depth : Nat) : Complete .ternary depth (ExprParser.ternary depth) := by
  induction depth with
  | zero =>
      intro tokens expr rest derivation short
      rcases derivation.opens_head with ⟨token, after, rfl, _⟩
      simp at short
  | succ depth nestedComplete =>
      have disjunctionComplete :=
        nestedComplete.disjunction.mono (Nat.succ_le_succ (Nat.le_succ depth))
      intro tokens expr rest derivation short stops
      cases derivation with
      | ternaryPlain inner =>
          have read :=
            disjunctionComplete tokens expr rest inner short (stops.tighten (by decide))
          unfold ExprParser.ternary
          rw [read]
          split
          · rename_i failed
            cases failed
          · rename_i condition question afterQuestion result
            cases result
            exact absurd (stops .question question afterQuestion .ternary rfl rfl) (by decide)
          · rename_i result
            cases result
            rfl
      | @ternary conditionTokens trueTokens falseTokens condition whenTrue whenFalse question colon
          conditionDerivation trueDerivation falseDerivation =>
          simp only [List.length_append, List.length_cons] at short
          have questionStops (after : List Token) :
              Stops .disjunction (⟨.symbol .question, question⟩ :: after) := by
            apply Stops.of_symbol
            intro joined joining
            cases joining
            decide
          have colonStops (after : List Token) :
              Stops .ternary (⟨.symbol .colon, colon⟩ :: after) :=
            Stops.of_symbol nofun
          have conditionRead :=
            disjunctionComplete conditionTokens condition _ conditionDerivation (by omega)
              (questionStops (trueTokens ++ ⟨.symbol .colon, colon⟩ :: (falseTokens ++ rest)))
          have trueRead :=
            nestedComplete trueTokens whenTrue _ trueDerivation (by omega)
              (colonStops (falseTokens ++ rest))
          have colonTaken :
              expect .colon (⟨.symbol .colon, colon⟩ :: (falseTokens ++ rest)) =
                .ok (falseTokens ++ rest) :=
            expect_eq_ok_iff.2 ⟨colon, rfl⟩
          have falseRead :=
            nestedComplete falseTokens whenFalse rest falseDerivation (by omega) stops
          simp only [List.append_assoc, List.cons_append, ExprParser.ternary, conditionRead,
            trueRead, colonTaken, falseRead, bind, Except.bind]

/-! ## Whole texts -/

/-- Where tokens without a marker are followed by one, whatever precedes a marker is all of them. -/
theorem eq_of_append_finish
    {tokens consumed rest : List Token} {position other : Nat}
    (noFinish : ∀ token ∈ tokens, token.kind ≠ .finish)
    (shape : tokens ++ [⟨.finish, position⟩] = consumed ++ ⟨.finish, other⟩ :: rest) :
    consumed = tokens := by
  rcases List.append_eq_append_iff.1 shape with ⟨more, longer, ending⟩ | ⟨more, longer, ending⟩
  · cases more with
    | nil => rw [longer, List.append_nil]
    | cons token more => simp at ending
  · cases more with
    | nil => rw [longer, List.append_nil]
    | cons token more =>
        rcases List.cons.inj ending with ⟨rfl, _⟩
        exact absurd rfl (noFinish ⟨.finish, other⟩ (by simp [longer]))

/-- A token list that ends with its marker is read as a whole exactly when the tokens before the
marker form a ternary. -/
theorem whole_eq_ok_iff
    {tokens : List Token} (noFinish : ∀ token ∈ tokens, token.kind ≠ .finish)
    (position : Nat) {expr : Expr} :
    whole (tokens ++ [⟨.finish, position⟩]) = .ok expr ↔ Derives .ternary tokens expr := by
  constructor
  · intro read
    unfold whole at read
    split at read
    · cases read
    · split at read
      · cases read
      · rename_i expr' finishPosition after ternaryRead
        cases read
        rcases sound_ternary _ _ _ _ ternaryRead with ⟨consumed, shape, derivation⟩
        rw [eq_of_append_finish noFinish shape] at derivation
        exact derivation
      · cases read
  · intro derivation
    rcases derivation.opens_head with ⟨token, after, rfl, opens⟩
    have read :=
      complete_ternary (token :: after ++ [⟨.finish, position⟩] : List Token).length _ _
        [⟨.finish, position⟩] derivation (by simp) (Stops.finish .ternary position [])
    unfold whole
    split
    · rename_i shape
      cases shape
      exact opens.elim
    · rw [read]

/-- No sequence of tokens has two trees. -/
theorem Derives.unique
    {tokens : List Token} {expr other : Expr}
    (derivation : Derives .ternary tokens expr)
    (otherDerivation : Derives .ternary tokens other) :
    expr = other := by
  have read := (whole_eq_ok_iff derivation.kind_ne_finish 0).2 derivation
  have otherRead := (whole_eq_ok_iff derivation.kind_ne_finish 0).2 otherDerivation
  exact Except.ok.inj (read.symm.trans otherRead)

/-- A scanned text ends with the marker, which stands nowhere else. -/
theorem scanFrom_ends
    {limit position : Nat} {text : List Char} {tokens : List Token}
    (scanned : Token.scanFrom limit position text = .ok tokens) :
    ∃ body finish, tokens = body ++ [⟨.finish, finish⟩] ∧
      ∀ token ∈ body, token.kind ≠ .finish := by
  induction limit generalizing position text tokens with
  | zero =>
      cases scanned
      exact ⟨[], position, rfl, nofun⟩
  | succ limit shorter =>
      cases text with
      | nil =>
          cases scanned
          exact ⟨[], position, rfl, nofun⟩
      | cons c rest =>
          rw [Token.scanFrom] at scanned
          split at scanned
          · exact shorter scanned
          · split at scanned
            · cases scanned
            · rename_i kind count tokenRead
              rcases Outcome.map_eq_ok_iff.1 scanned with ⟨more, moreScanned, rfl⟩
              rcases shorter moreScanned with ⟨body, finish, rfl, noFinish⟩
              refine ⟨⟨kind, position⟩ :: body, finish, rfl, ?_⟩
              exact List.forall_mem_cons.2 ⟨(Token.begins_of_readToken tokenRead).kind_ne_finish, noFinish⟩

/--
Reading an expression text recognises the grammar: of a text that can be cut into tokens, those before
the marker at the end are read as an expression exactly when they form a ternary with that tree, and no
sequence of tokens has two trees.
-/
theorem parse_recognises_grammar :
    (∀ text tokens, Token.scan text = .ok tokens →
      ∃ body finish,
        tokens = body ++ [⟨.finish, finish⟩] ∧
        (∀ token ∈ body, token.kind ≠ .finish) ∧
        ∀ expr, Expr.parse text = .ok expr ↔ Derives .ternary body expr) ∧
    ∀ tokens expr other,
      Derives .ternary tokens expr → Derives .ternary tokens other → expr = other := by
  constructor
  · intro text tokens scanned
    rcases scanFrom_ends scanned with ⟨body, finish, rfl, noFinish⟩
    refine ⟨body, finish, rfl, noFinish, ?_⟩
    intro expr
    rw [Expr.parse, scanned, Outcome.mapError_eq_ok_iff]
    exact whole_eq_ok_iff noFinish _
  · intro tokens expr other derivation otherDerivation
    exact derivation.unique otherDerivation

/-- The grammar decides on a text that uses every level of it but the ternary. -/
theorem parse_recognises_mixed_chain :
    Token.scan "!a<2-+b*c||d" = .ok
      [⟨.symbol .not, 0⟩, ⟨.name "a", 1⟩, ⟨.symbol (.compare .lt), 2⟩, ⟨.number (.int 2), 3⟩,
        ⟨.symbol (.compute .sub), 4⟩, ⟨.symbol (.compute .add), 5⟩, ⟨.name "b", 6⟩,
        ⟨.symbol (.compute .mul), 7⟩, ⟨.name "c", 8⟩, ⟨.symbol .or, 9⟩, ⟨.name "d", 11⟩,
        ⟨.finish, 12⟩] ∧
    ∃ body finish,
      [⟨.symbol .not, 0⟩, ⟨.name "a", 1⟩, ⟨.symbol (.compare .lt), 2⟩, ⟨.number (.int 2), 3⟩,
        ⟨.symbol (.compute .sub), 4⟩, ⟨.symbol (.compute .add), 5⟩, ⟨.name "b", 6⟩,
        ⟨.symbol (.compute .mul), 7⟩, ⟨.name "c", 8⟩, ⟨.symbol .or, 9⟩, ⟨.name "d", 11⟩,
        ⟨.finish, 12⟩] = body ++ [⟨.finish, finish⟩] ∧
      (∀ token ∈ body, token.kind ≠ .finish) ∧
      ∀ expr, Expr.parse "!a<2-+b*c||d" = .ok expr ↔ Derives .ternary body expr :=
  ⟨rfl, parse_recognises_grammar.1 "!a<2-+b*c||d" _ rfl⟩

end RowPlan.Grammar
