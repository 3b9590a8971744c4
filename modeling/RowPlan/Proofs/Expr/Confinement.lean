import RowPlan.Proofs.Expr.Positions
import RowPlan.Proofs.Expr.Recognition

/-!
# Parsing stays before the marker

The marker at the end of a token list is out of reach of every parser: none of them takes it, and what
stands behind it makes no difference. This is stated for two runs over the same tokens before a marker,
with anything behind it and with any bounds on the nesting that are large enough: both runs read the same
expression and leave the same of these tokens, or both end with the same fault, at the offset of one of
these tokens or of the marker. The property passes from the parser of a category to the parser of the
next looser one, and for ternaries it follows by induction on the number of tokens.
-/

namespace RowPlan.ExprParser

open Grammar (Category)

/-- Two runs over the tokens before a marker have the same outcome, which does not reach past the
marker. -/
inductive SameUpTo (before : List Token) (finish : Nat) (behind behind' : List Token) :
    Except ExprProblem (Expr × List Token) → Except ExprProblem (Expr × List Token) → Prop where
  | read {expr : Expr} {left : List Token} :
      left <:+ before →
      SameUpTo before finish behind behind'
        (.ok (expr, left ++ ⟨.finish, finish⟩ :: behind))
        (.ok (expr, left ++ ⟨.finish, finish⟩ :: behind'))
  | fault {fault : SyntaxFault} (token : Token) :
      token ∈ before ++ [⟨.finish, finish⟩] →
      SameUpTo before finish behind behind'
        (.error (.malformed fault token.position)) (.error (.malformed fault token.position))

/-- Over fewer than `bound` tokens before a marker the two parsers have the same outcome, which does not
reach past the marker. -/
def Confined (bound : Nat) (parser other : ExprParser) : Prop :=
  ∀ before finish behind behind', before.length < bound →
    SameUpTo before finish behind behind'
      (parser (before ++ ⟨.finish, finish⟩ :: behind))
      (other (before ++ ⟨.finish, finish⟩ :: behind'))

section Runs

variable {before later : List Token} {finish : Nat} {behind behind' : List Token}
  {outcome outcome' : Except ExprProblem (Expr × List Token)}

/-- What is left of the tokens after some of them have been taken. -/
theorem SameUpTo.after
    (same : SameUpTo later finish behind behind' outcome outcome') (suffix : later <:+ before) :
    SameUpTo before finish behind behind' outcome outcome' := by
  cases same with
  | read left => exact .read (left.trans suffix)
  | fault token member =>
      apply SameUpTo.fault token
      simp only [List.mem_append] at member ⊢
      exact member.imp_left fun inLater => suffix.subset inLater

theorem SameUpTo.map
    (same : SameUpTo before finish behind behind' outcome outcome') (f : Expr → Expr) :
    SameUpTo before finish behind behind'
      (outcome.map fun (expr, left) => (f expr, left))
      (outcome'.map fun (expr, left) => (f expr, left)) := by
  cases same with
  | read left => exact .read left
  | fault token member => exact .fault token member

/-- What the first of two parsers leaves goes to the second. -/
theorem SameUpTo.bind
    (same : SameUpTo before finish behind behind' outcome outcome')
    {next next' : Expr × List Token → Except ExprProblem (Expr × List Token)}
    (continues : ∀ expr left, left <:+ before →
      SameUpTo before finish behind behind'
        (next (expr, left ++ ⟨.finish, finish⟩ :: behind))
        (next' (expr, left ++ ⟨.finish, finish⟩ :: behind'))) :
    SameUpTo before finish behind behind' (outcome >>= next) (outcome' >>= next') := by
  cases same with
  | read left => exact continues _ _ left
  | fault token member => exact .fault token member

end Runs

/-- A symbol that is expected comes next, or the fault is at the next token, which may be the marker. -/
theorem expect_cases (symbol : Symbol) (before : List Token) (finish : Nat) :
    (∃ position left, before = ⟨.symbol symbol, position⟩ :: left ∧
      ∀ behind, expect symbol (before ++ ⟨.finish, finish⟩ :: behind) =
        .ok (left ++ ⟨.finish, finish⟩ :: behind)) ∨
    ∃ token ∈ before ++ [⟨.finish, finish⟩],
      ∀ behind, expect symbol (before ++ ⟨.finish, finish⟩ :: behind) =
        .error (.malformed (.expected symbol) token.position) := by
  cases before with
  | nil => exact .inr ⟨_, List.mem_cons_self, fun _ => rfl⟩
  | cons token left =>
      by_cases expected : token.kind = .symbol symbol
      · refine .inl ⟨token.position, left, by rw [← expected], fun behind => ?_⟩
        exact Grammar.expect_eq_ok_iff.2 ⟨token.position, by rw [← expected]; rfl⟩
      · refine .inr ⟨token, List.mem_cons_self, fun behind => ?_⟩
        unfold expect
        split
        · rename_i found position rest shape
          cases shape
          exact if_neg fun same => expected (congrArg TokenKind.symbol same)
        · rfl

/-- The symbol that is expected goes, or it is found missing before anything behind the marker is seen. -/
theorem SameUpTo.expect
    {symbol : Symbol} {before left behind behind' : List Token} {finish : Nat}
    (isLeft : left <:+ before)
    {next next' : List Token → Except ExprProblem (Expr × List Token)}
    (continues : ∀ after, after <:+ before → after.length < left.length →
      SameUpTo before finish behind behind'
        (next (after ++ ⟨.finish, finish⟩ :: behind))
        (next' (after ++ ⟨.finish, finish⟩ :: behind'))) :
    SameUpTo before finish behind behind'
      (expect symbol (left ++ ⟨.finish, finish⟩ :: behind) >>= next)
      (expect symbol (left ++ ⟨.finish, finish⟩ :: behind') >>= next') := by
  rcases expect_cases symbol left finish with ⟨_, after, rfl, taken⟩ | ⟨token, member, missing⟩
  · rw [taken, taken]
    exact continues after ((List.suffix_cons _ _).trans isLeft) (Nat.lt_succ_self _)
  · rw [missing, missing]
    exact (SameUpTo.fault token member).after isLeft

/-! ## Primaries, signs and negations -/

variable {bound : Nat} {nested nested' operand operand' : ExprParser}

theorem primary_opening (nested : ExprParser) (position : Nat) (rest : List Token) :
    primary nested (⟨.symbol .opening, position⟩ :: rest) =
      nested rest >>= fun (inner, afterInner) =>
        expect .closing afterInner >>= fun after => .ok (inner, after) := by
  rw [primary]
  cases nested rest <;> rfl

theorem Confined.primary (confined : Confined bound nested nested') :
    Confined (bound + 1) (primary nested) (primary nested') := by
  intro before finish behind behind' short
  cases before with
  | nil => exact .fault ⟨.finish, finish⟩ List.mem_cons_self
  | cons token rest =>
      obtain ⟨kind, position⟩ := token
      have suffix : rest <:+ ⟨kind, position⟩ :: rest := List.suffix_cons _ _
      have inside := confined rest finish behind behind' (Nat.lt_of_succ_lt_succ short)
      cases kind with
      | number | quoted | word | name | field => exact .read suffix
      | finish => exact .fault ⟨.finish, position⟩ List.mem_cons_self
      | symbol symbol =>
          cases symbol with
          | opening =>
              rw [List.cons_append, List.cons_append, primary_opening, primary_opening]
              apply SameUpTo.after _ suffix
              apply inside.bind
              intro expr left isLeft
              apply SameUpTo.expect isLeft
              intro after isAfter _
              exact .read isAfter
          | _ => exact .fault ⟨.symbol _, position⟩ List.mem_cons_self

/-- Only the two signs are taken here. -/
theorem signed_eq_operand
    {token : Token} (notMinus : token.kind ≠ .symbol (.compute .sub))
    (notPlus : token.kind ≠ .symbol (.compute .add)) (rest : List Token) :
    signed operand (token :: rest) = operand (token :: rest) := by
  rw [signed]
  · rintro _ _ ⟨⟩
    exact notMinus rfl
  · rintro _ _ ⟨⟩
    exact notPlus rfl

theorem Confined.signed (confined : Confined bound operand operand') :
    Confined bound (signed operand) (signed operand') := by
  intro before finish behind behind' short
  induction before with
  | nil => exact confined [] finish behind behind' short
  | cons token rest later =>
      have suffix : rest <:+ token :: rest := List.suffix_cons _ _
      have atRest := later (Nat.lt_of_succ_lt short)
      obtain ⟨kind, position⟩ := token
      by_cases minus : kind = .symbol (.compute .sub)
      · subst minus
        exact (atRest.map .neg).after suffix
      · by_cases plus : kind = .symbol (.compute .add)
        · subst plus
          exact atRest.after suffix
        · have isOperand (parser : ExprParser) (more : List Token) :
              ExprParser.signed parser (⟨kind, position⟩ :: more) = parser (⟨kind, position⟩ :: more) :=
            signed_eq_operand minus plus more
          rw [List.cons_append, List.cons_append, isOperand, isOperand]
          exact confined (⟨kind, position⟩ :: rest) finish behind behind' short

theorem negated_eq_operand
    {token : Token} (notNot : token.kind ≠ .symbol .not) (rest : List Token) :
    negated operand (token :: rest) = operand (token :: rest) := by
  rw [negated]
  rintro _ _ ⟨⟩
  exact notNot rfl

theorem Confined.negated (confined : Confined bound operand operand') :
    Confined bound (negated operand) (negated operand') := by
  intro before finish behind behind' short
  induction before with
  | nil => exact confined [] finish behind behind' short
  | cons token rest later =>
      have suffix : rest <:+ token :: rest := List.suffix_cons _ _
      have atRest := later (Nat.lt_of_succ_lt short)
      obtain ⟨kind, position⟩ := token
      by_cases isNot : kind = .symbol .not
      · subst isNot
        exact (atRest.map .not).after suffix
      · have isOperand (parser : ExprParser) (more : List Token) :
            ExprParser.negated parser (⟨kind, position⟩ :: more) = parser (⟨kind, position⟩ :: more) :=
          negated_eq_operand isNot more
        rw [List.cons_append, List.cons_append, isOperand, isOperand]
        exact confined (⟨kind, position⟩ :: rest) finish behind behind' short

/-! ## Chains and comparisons -/

section Chains

variable (operator? : Symbol → Option BinaryOp)

/-- A chain ends at a token that is none of its operators. -/
theorem chainFrom_stops
    {token : Token} (noOperator : ∀ symbol, token.kind = .symbol symbol → operator? symbol = none)
    (limit : Nat) (left : Expr) (rest : List Token) :
    chainFrom operator? operand limit left (token :: rest) = .ok (left, token :: rest) := by
  cases limit with
  | zero => rfl
  | succ limit =>
      unfold chainFrom
      split
      · rename_i shape
        cases shape
        rw [noOperator _ rfl]
      · rfl

theorem chainFrom_finish (limit : Nat) (left : Expr) (finish : Nat) (behind : List Token) :
    chainFrom operator? operand limit left (⟨.finish, finish⟩ :: behind) =
      .ok (left, ⟨.finish, finish⟩ :: behind) := by
  apply chainFrom_stops
  nofun

/-- An operator takes the chain to the next operand. -/
theorem chainFrom_continues
    {symbol : Symbol} {op : BinaryOp} (isOperator : operator? symbol = some op)
    (limit position : Nat) (left : Expr) (rest : List Token) :
    chainFrom operator? operand (limit + 1) left (⟨.symbol symbol, position⟩ :: rest) =
      operand rest >>= fun (right, after) =>
        chainFrom operator? operand limit (.binary op left right) after := by
  rw [chainFrom, isOperator]
  cases operand rest <;> rfl

theorem Confined.chainFrom
    (confined : Confined bound operand operand') {before : List Token} {limit limit' : Nat}
    (short : before.length < bound) (enough : before.length ≤ limit)
    (enough' : before.length ≤ limit') (left : Expr) (finish : Nat) (behind behind' : List Token) :
    SameUpTo before finish behind behind'
      (chainFrom operator? operand limit left (before ++ ⟨.finish, finish⟩ :: behind))
      (chainFrom operator? operand' limit' left (before ++ ⟨.finish, finish⟩ :: behind')) := by
  -- The induction is on the limit, since every operator takes one of it along with its token.
  induction limit generalizing before limit' left with
  | zero =>
      cases List.length_eq_zero_iff.1 (Nat.le_zero.1 enough)
      rw [List.nil_append, List.nil_append, chainFrom_finish, chainFrom_finish]
      exact .read (List.suffix_refl [])
  | succ limit later =>
      cases before with
      | nil =>
          rw [List.nil_append, List.nil_append, chainFrom_finish, chainFrom_finish]
          exact .read (List.suffix_refl [])
      | cons token rest =>
          obtain ⟨smaller, rfl⟩ := Nat.exists_eq_succ_of_ne_zero (Nat.ne_zero_of_lt enough')
          have suffix : rest <:+ token :: rest := List.suffix_cons _ _
          have restShort : rest.length < bound := Nat.lt_of_succ_lt short
          by_cases continued : ∃ symbol op, token.kind = .symbol symbol ∧ operator? symbol = some op
          · rcases continued with ⟨symbol, op, isSymbol, isOperator⟩
            obtain ⟨kind, position⟩ := token
            subst isSymbol
            simp only [List.cons_append, Nat.succ_eq_add_one,
              chainFrom_continues operator? isOperator]
            apply SameUpTo.after _ suffix
            apply (confined rest finish behind behind' restShort).bind
            intro right after isAfter
            have fewer := isAfter.length_le
            simp only [List.length_cons] at enough enough'
            exact (later (by omega) (by omega) (by omega) _).after isAfter
          · have noOperator (symbol : Symbol) (isSymbol : token.kind = .symbol symbol) :
                operator? symbol = none := by
              by_contra isOperator
              rcases Option.ne_none_iff_exists'.1 isOperator with ⟨op, found⟩
              exact continued ⟨symbol, op, isSymbol, found⟩
            rw [List.cons_append, List.cons_append, chainFrom_stops operator? noOperator,
              chainFrom_stops operator? noOperator]
            exact .read (List.suffix_refl (token :: rest))

theorem chain_eq_bind (tokens : List Token) :
    chain operator? operand tokens =
      operand tokens >>= fun (first, rest) =>
        chainFrom operator? operand rest.length first rest := by
  rw [chain]
  cases operand tokens <;> rfl

theorem Confined.chain (confined : Confined bound operand operand') :
    Confined bound (chain operator? operand) (chain operator? operand') := by
  intro before finish behind behind' short
  rw [chain_eq_bind, chain_eq_bind]
  apply (confined before finish behind behind' short).bind
  intro first left isLeft
  have fewer := isLeft.length_le
  apply SameUpTo.after _ isLeft
  apply confined.chainFrom operator? (Nat.lt_of_le_of_lt fewer short)
  · simp
  · simp

end Chains

theorem Confined.compared (confined : Confined bound operand operand') :
    Confined bound (compared operand) (compared operand') := by
  intro before finish behind behind' short
  have same := confined before finish behind behind' short
  unfold ExprParser.compared
  generalize operand (before ++ ⟨.finish, finish⟩ :: behind) = outcome at same
  generalize operand' (before ++ ⟨.finish, finish⟩ :: behind') = outcome' at same
  cases same with
  | fault token member => exact .fault token member
  | @read expr left isLeft =>
      cases left with
      | nil => exact .read isLeft
      | cons token rest =>
          have suffix : rest <:+ before := (List.suffix_cons _ _).trans isLeft
          have fewer := suffix.length_le
          have right := confined rest finish behind behind' (Nat.lt_of_le_of_lt fewer short)
          obtain ⟨kind, position⟩ := token
          cases kind with
          | symbol symbol =>
              cases symbol with
              | compare op => exact (right.map (.binary (.compare op) expr)).after suffix
              | _ => exact .read isLeft
          | _ => exact .read isLeft

/-! ## Ternaries -/

/-- The parser of a category, where `depth` bounds the nesting below it. -/
def ofCategory (depth : Nat) (category : Category) : ExprParser :=
  let operand := signed (primary (ternary depth))
  let product := chain productOp? operand
  let sum := chain sumOp? product
  let negation := negated (compared sum)
  match category with
  | .ternary => ternary (depth + 1)
  | .disjunction => disjunction (ternary depth)
  | .conjunction => chain andOp? negation
  | .negation => negation
  | .comparison => compared sum
  | .sum => sum
  | .product => product
  | .signed => operand
  | .primary => primary (ternary depth)

theorem Confined.disjunction (confined : Confined bound nested nested') :
    Confined (bound + 1) (disjunction nested) (disjunction nested') :=
  Confined.chain orOp? (Confined.chain andOp? (Confined.negated (Confined.compared
    (Confined.chain sumOp? (Confined.chain productOp? (Confined.signed (Confined.primary confined)))))))

/-- The depths of two ternaries make no difference where both are as large as the number of tokens. -/
theorem confined_ternary
    {depth depth' : Nat} (enough : bound ≤ depth) (enough' : bound ≤ depth') :
    Confined bound (ternary depth) (ternary depth') := by
  induction bound generalizing depth depth' with
  | zero =>
      intro before finish behind behind' short
      cases short
  | succ bound inner =>
      obtain ⟨smaller, rfl⟩ := Nat.exists_eq_succ_of_ne_zero (Nat.ne_zero_of_lt enough)
      obtain ⟨smaller', rfl⟩ := Nat.exists_eq_succ_of_ne_zero (Nat.ne_zero_of_lt enough')
      have branches :=
        inner (Nat.le_of_succ_le_succ enough) (Nat.le_of_succ_le_succ enough')
      intro before finish behind behind' short
      have same := branches.disjunction before finish behind behind' short
      unfold ternary
      generalize ExprParser.disjunction (ternary smaller) (before ++ ⟨.finish, finish⟩ :: behind) =
        outcome at same
      generalize ExprParser.disjunction (ternary smaller') (before ++ ⟨.finish, finish⟩ :: behind') =
        outcome' at same
      cases same with
      | fault token member => exact .fault token member
      | @read condition left isLeft =>
          cases left with
          | nil => exact .read isLeft
          | cons token rest =>
              have suffix : rest <:+ before := (List.suffix_cons _ _).trans isLeft
              have restShort : rest.length < bound := by
                have fewer := isLeft.length_le
                rw [List.length_cons] at fewer
                omega
              obtain ⟨kind, position⟩ := token
              cases kind with
              | symbol symbol =>
                  cases symbol with
                  | question =>
                      apply SameUpTo.after _ suffix
                      apply (branches rest finish behind behind' restShort).bind
                      intro whenTrue beforeColon isBeforeColon
                      apply SameUpTo.expect isBeforeColon
                      intro afterColon isAfterColon fewer
                      have afterShort : afterColon.length < bound := by
                        have fewerStill := isBeforeColon.length_le
                        omega
                      have whenFalse := branches afterColon finish behind behind' afterShort
                      exact (whenFalse.map (.ternary condition whenTrue)).after isAfterColon
                  | _ => exact .read isLeft
              | _ => exact .read isLeft

/-- The parser of every category is confined, whatever the depths, if they are as large as the number of
tokens. -/
theorem confined_ofCategory
    {depth depth' : Nat} (enough : bound ≤ depth) (enough' : bound ≤ depth') (category : Category) :
    Confined (bound + 1) (ofCategory depth category) (ofCategory depth' category) := by
  have branches := confined_ternary enough enough'
  have primaries := branches.primary
  have operands := primaries.signed
  have sums := (operands.chain productOp?).chain sumOp?
  cases category with
  | ternary => exact confined_ternary (Nat.succ_le_succ enough) (Nat.succ_le_succ enough')
  | disjunction => exact branches.disjunction
  | conjunction => exact sums.compared.negated.chain andOp?
  | negation => exact sums.compared.negated
  | comparison => exact sums.compared
  | sum => exact sums
  | product => exact operands.chain productOp?
  | signed => exact operands
  | primary => exact primaries

/-! ## Whole token lists -/

theorem whole_cons {token : Token} (notFinish : token.kind ≠ .finish) (rest : List Token) :
    whole (token :: rest) =
      match ternary (token :: rest).length (token :: rest) with
      | .error problem => .error problem
      | .ok (expr, ⟨.finish, _⟩ :: _) => .ok expr
      | .ok (_, rest) => .error (.malformed .trailing (positionOf rest)) := by
  unfold whole
  split
  · rename_i shape
    cases shape
    exact absurd rfl notFinish
  · rfl

/-- Two readings of the tokens before a marker give the same expression, or they find the same fault, at
the start of the text or at the offset of one of the tokens up to the marker. -/
theorem whole_confined (before : List Token) (finish : Nat) (behind behind' : List Token) :
    (∃ expr, whole (before ++ ⟨.finish, finish⟩ :: behind) = .ok expr ∧
      whole (before ++ ⟨.finish, finish⟩ :: behind') = .ok expr) ∨
    ∃ fault position,
      (position = 0 ∨ ∃ token ∈ before ++ [⟨.finish, finish⟩], token.position = position) ∧
      whole (before ++ ⟨.finish, finish⟩ :: behind) = .error (.malformed fault position) ∧
      whole (before ++ ⟨.finish, finish⟩ :: behind') = .error (.malformed fault position) := by
  cases before with
  | nil => exact .inr ⟨.empty, 0, .inl rfl, rfl, rfl⟩
  | cons token rest =>
      by_cases isFinish : token.kind = .finish
      · obtain ⟨kind, position⟩ := token
        subst isFinish
        exact .inr ⟨.empty, 0, .inl rfl, rfl, rfl⟩
      · have confined :
            Confined ((token :: rest).length + 1)
              (ternary (token :: (rest ++ ⟨.finish, finish⟩ :: behind)).length)
              (ternary (token :: (rest ++ ⟨.finish, finish⟩ :: behind')).length) :=
          confined_ternary (by simp) (by simp)
        have same := confined (token :: rest) finish behind behind' (Nat.lt_succ_self _)
        rw [List.cons_append, List.cons_append] at same ⊢
        rw [whole_cons isFinish, whole_cons isFinish]
        generalize ternary _ (token :: (rest ++ ⟨.finish, finish⟩ :: behind)) = outcome at same ⊢
        generalize ternary _ (token :: (rest ++ ⟨.finish, finish⟩ :: behind')) = outcome' at same ⊢
        cases same with
        | @fault fault found member =>
            exact .inr ⟨fault, found.position, .inr ⟨found, member, rfl⟩, rfl, rfl⟩
        | @read expr left isLeft =>
            cases left with
            | nil => exact .inl ⟨expr, rfl, rfl⟩
            | cons next more =>
                have member : next ∈ token :: rest ++ [⟨.finish, finish⟩] :=
                  List.mem_append_left _ (isLeft.subset List.mem_cons_self)
                obtain ⟨kind, position⟩ := next
                cases kind with
                | finish => exact .inl ⟨expr, rfl, rfl⟩
                | _ => exact .inr ⟨.trailing, position, .inr ⟨_, member, rfl⟩, rfl, rfl⟩

end RowPlan.ExprParser

namespace RowPlan.Expr

open ExprParser

/-- A fault of syntax is found in the text, or behind its last character. -/
theorem position_le_of_parse_eq_malformed
    {text source : String} {fault : SyntaxFault} {position : Nat}
    (failed : parse text = .error (.malformed fault position source)) :
    source = text ∧ position ≤ text.length := by
  unfold parse at failed
  split at failed
  · rename_i problem stopped
    cases problem with
    | numeral error => cases failed
    | malformed fault position =>
        cases failed
        exact ⟨rfl, Token.position_le_of_scan_eq_malformed stopped⟩
  · rename_i tokens scanned
    have spans := Token.scan_spans scanned
    rcases spans.ends with ⟨body, shape, _⟩
    rcases whole_confined body text.length [] [] with
      ⟨expr, read, _⟩ | ⟨fault, position, place, stopped, _⟩
    · rw [shape, read] at failed
      cases failed
    · rw [shape, stopped] at failed
      cases failed
      refine ⟨rfl, ?_⟩
      rcases place with rfl | ⟨token, member, rfl⟩
      · exact Nat.zero_le _
      · exact spans.mem_le token (shape ▸ member)

/--
Scanning and parsing stay inside the text. If a text can be cut into tokens, their offsets ascend, each of
them but the last starts at a character of the text that is no blank, and the last is the one marker, at
the offset of the end. Whatever stands behind the marker, the parser of every category, wherever it is
called before the marker, leaves the marker in place and does the same, and so does the reading of the
whole token list. The faults that scanning and parsing find are at offsets within the text or at its end.
-/
theorem scanning_and_parsing_stay_inside (text : String) :
    (∀ tokens, Token.scan text = .ok tokens →
      ∃ body,
        tokens = body ++ [⟨.finish, text.length⟩] ∧
        (∀ token ∈ body, token.kind ≠ .finish) ∧
        tokens.Pairwise (fun token later => token.position < later.position) ∧
        (∀ token ∈ body, ∃ c, text.toList[token.position]? = some c ∧ Text.isBlank c = false) ∧
        (∀ category depth depth' left behind, left <:+ body → left.length ≤ depth →
          left.length ≤ depth' →
          SameUpTo left text.length [] behind
            (ofCategory depth category (left ++ [⟨.finish, text.length⟩]))
            (ofCategory depth' category (left ++ ⟨.finish, text.length⟩ :: behind))) ∧
        ∀ behind, whole (tokens ++ behind) = whole tokens) ∧
    (∀ fault position, Token.scan text = .error (.malformed fault position) →
      position ≤ text.length) ∧
    ∀ fault position source, parse text = .error (.malformed fault position source) →
      source = text ∧ position ≤ text.length := by
  refine ⟨?_, ?_, ?_⟩
  · intro tokens scanned
    have spans := Token.scan_spans scanned
    rcases spans.ends with ⟨body, rfl, noFinish⟩
    refine ⟨body, rfl, noFinish, spans.ascending, ?_, ?_, ?_⟩
    · intro token member
      exact Token.starts_of_mem_scan scanned (List.mem_append_left _ member) (noFinish token member)
    · intro category depth depth' left behind _ enough enough'
      exact confined_ofCategory enough enough' category left text.length [] behind
        (Nat.lt_succ_self _)
    · intro behind
      rw [List.append_assoc]
      rcases whole_confined body text.length behind [] with
        ⟨expr, read, same⟩ | ⟨fault, position, _, stopped, same⟩
      · exact read.trans same.symm
      · exact stopped.trans same.symm
  · intro fault position stopped
    exact Token.position_le_of_scan_eq_malformed stopped
  · intro fault position source failed
    exact position_le_of_parse_eq_malformed failed

/-- A parenthesis is left open at the marker, and a closing one behind the marker does not help; a quote is
left open in another text. -/
theorem scanning_and_parsing_stay_inside_left_open :
    let tokens : List Token := [⟨.symbol .opening, 0⟩, ⟨.name "a", 1⟩, ⟨.finish, 2⟩]
    let behind : List Token := [⟨.symbol .closing, 3⟩]
    Token.scan "(a" = .ok tokens ∧
      tokens.Pairwise (fun token later => token.position < later.position) ∧
      SameUpTo [⟨.name "a", 1⟩] 2 [] behind
        (ofCategory 1 .sum [⟨.name "a", 1⟩, ⟨.finish, 2⟩])
        (ofCategory 4 .sum (⟨.name "a", 1⟩ :: ⟨.finish, 2⟩ :: behind)) ∧
      whole (tokens ++ behind) = whole tokens ∧
      parse "(a" = .error (.malformed (.expected .closing) 2 "(a") ∧ 2 ≤ "(a".length ∧
      Token.scan "a \x27b" = .error (.malformed .unterminated 2) ∧ 2 ≤ "a \x27b".length := by
  intro tokens behind
  have scanned : Token.scan "(a" = .ok tokens := rfl
  have failed : parse "(a" = .error (.malformed (.expected .closing) 2 "(a") := rfl
  have stopped : Token.scan "a \x27b" = .error (.malformed .unterminated 2) := rfl
  rcases (scanning_and_parsing_stay_inside "(a").1 tokens scanned with
    ⟨body, shape, _, ascending, _, confined, unread⟩
  have isBody : body = [⟨.symbol .opening, 0⟩, ⟨.name "a", 1⟩] := by
    have init := congrArg List.dropLast shape
    rw [List.dropLast_concat] at init
    exact init.symm
  have suffix : [⟨.name "a", 1⟩] <:+ body := by
    rw [isBody]
    exact List.suffix_cons _ _
  refine ⟨scanned, ascending, ?_, unread behind, failed, ?_, stopped, ?_⟩
  · exact confined .sum 1 4 [⟨.name "a", 1⟩] behind suffix (by decide) (by decide)
  · exact ((scanning_and_parsing_stay_inside "(a").2.2 _ _ _ failed).2
  · exact (scanning_and_parsing_stay_inside "a \x27b").2.1 _ _ stopped

end RowPlan.Expr
