import RowPlan.Proofs.Expr.Scanner
import RowPlan.Proofs.Outcome
import RowPlan.Expr.Parser

/-!
# Texts with an unreadable numeral

The scanner goes through a text token by token and stops at the first fault. Where it comes to a
numeral that cannot be read, the text has no syntax error, and nothing after the scanner makes one
of it: reading an expression ends with the fault of the numeral exactly then.
-/

namespace RowPlan

namespace Token

/-! ## Numerals that cannot be read -/

/-- A numeral that cannot be read: one of its digits has no decimal value, or it is an integer of
too many digits. -/
def Unreadable (numeral : List Char) : Prop :=
  (∃ c ∈ numeral, Text.isDigit c = true ∧ Text.decimalDigit? c = none) ∨
    isDecimal numeral = false ∧ Decimal.digitLimit < numeral.length

theorem not_unreadable_iff
    {numeral : List Char} :
    ¬Unreadable numeral ↔
      Decimal.AllDecimal numeral ∧
        (isDecimal numeral = false → numeral.length ≤ Decimal.digitLimit) := by
  rw [Unreadable, not_or, not_and, Nat.not_lt]
  apply and_congr_left'
  simp only [Decimal.AllDecimal, not_exists, not_and, ne_eq]

/-- A numeral with neither a fraction nor an exponent is made of digits. -/
theorem eq_digits_of_isDecimal_eq_false
    {whole point exponent : List Char} (parts : Decimal.Numeral whole point exponent)
    (integer : isDecimal (whole ++ point ++ exponent) = false) :
    point = [] ∧ exponent = [] := by
  rw [isDecimal, List.any_append, List.any_append, Bool.or_eq_false_iff,
    Bool.or_eq_false_iff] at integer
  rcases parts with ⟨_, isFraction, isExponent, _⟩
  constructor
  · cases isFraction with
    | none => rfl
    | digits => cases integer.1.2
  · cases isExponent with
    | none => rfl
    | digits isMark => rcases isMark with rfl | rfl <;> cases integer.2

/-- The numeral at the start of a text is read unless one of its digits has no decimal value or it
is an integer of too many digits. -/
theorem readNumeral_succeeds_iff
    {text : List Char} (starts : startsNumeral text = true) :
    (∃ n, readNumeral (numeral text) = .ok n) ↔ ¬Unreadable (numeral text) := by
  rcases numeral_parts starts with ⟨whole, point, exponent, shape, parts⟩
  rw [not_unreadable_iff, shape]
  cases kind : isDecimal (whole ++ point ++ exponent) with
  | true =>
      have decimal :
          (∃ n, readNumeral (whole ++ point ++ exponent) = .ok n) ↔
            ∃ x, Decimal.readFloat? (String.ofList (whole ++ point ++ exponent)) = some x := by
        rw [readNumeral, kind, if_pos rfl]
        cases Decimal.readFloat? (String.ofList (whole ++ point ++ exponent)) <;> simp
      rw [decimal, Decimal.readFloat?_decimal_iff parts]
      simp
  | false =>
      rcases eq_digits_of_isDecimal_eq_false parts kind with ⟨rfl, rfl⟩
      have nonempty : whole ≠ [] := by simpa using parts.nonempty
      rw [List.append_nil, List.append_nil] at kind ⊢
      have integer :
          (∃ n, readNumeral whole = .ok n) ↔
            ∃ n, Decimal.readInteger (String.ofList whole) = .value n := by
        rw [readNumeral, kind, if_neg Bool.false_ne_true, Decimal.integer]
        cases Decimal.readInteger (String.ofList whole) <;> simp [Except.map]
      rw [integer, Decimal.readInteger_digits_iff parts.digits nonempty]
      simp

/-! ## The scanner -/

/-- A token is refused for its numeral only where a numeral starts. -/
theorem readToken_eq_numeral_iff
    {position : Nat} {c : Char} {rest : List Char} {error : NumeralError} :
    readToken position c rest = .error (.numeral error) ↔
      startsNumeral (c :: rest) = true ∧ readNumeral (numeral (c :: rest)) = .error error := by
  rw [readToken]
  cases starts : startsNumeral (c :: rest) with
  | true =>
      rw [if_pos rfl]
      dsimp only
      cases read : readNumeral (numeral (c :: rest)) <;> simp
  | false =>
      rw [if_neg Bool.false_ne_true]
      refine iff_of_false ?_ (by simp)
      intro failed
      split at failed
      · rw [readQuoted] at failed
        split at failed <;> cases failed
      · split at failed
        · cases failed
        · rw [readSymbol] at failed
          split at failed <;> cases failed

theorem scanFrom_eq_numeral
    {limit position : Nat} {text : List Char} {error : NumeralError}
    (stopped : scanFrom limit position text = .error (.numeral error)) :
    ∃ final rest, Reaches position text final rest ∧ startsNumeral rest = true ∧
      readNumeral (numeral rest) = .error error := by
  induction limit generalizing position text with
  | zero => cases stopped
  | succ limit later =>
      cases text with
      | nil => cases stopped
      | cons c rest =>
          rw [scanFrom] at stopped
          split at stopped
          · rename_i blank
            rcases later stopped with ⟨final, finalText, reached, fault⟩
            exact ⟨final, finalText, .blank blank reached, fault⟩
          · rename_i noBlank
            rw [Bool.not_eq_true] at noBlank
            split at stopped
            · rename_i failed
              cases stopped
              exact ⟨position, c :: rest, .here, readToken_eq_numeral_iff.1 failed⟩
            · rename_i read
              rcases later (Outcome.map_eq_error_iff.1 stopped) with
                ⟨final, finalText, reached, fault⟩
              exact ⟨final, finalText, .token noBlank read reached, fault⟩

theorem Reaches.scanFrom_stops
    {position final : Nat} {text rest : List Char} {error : NumeralError}
    (reached : Reaches position text final rest) (starts : startsNumeral rest = true)
    (fault : readNumeral (numeral rest) = .error error) {limit : Nat}
    (enough : text.length ≤ limit) :
    scanFrom limit position text = .error (.numeral error) := by
  induction reached generalizing limit with
  | here =>
      rcases startsNumeral_nonempty starts with ⟨c, rest, rfl, noBlank⟩
      cases limit with
      | zero => cases enough
      | succ limit =>
          rw [scanFrom, if_neg (by simp [noBlank]), readToken_eq_numeral_iff.2 ⟨starts, fault⟩]
  | blank isBlank _ later =>
      cases limit with
      | zero => cases enough
      | succ limit =>
          rw [scanFrom, if_pos isBlank]
          exact later starts fault (Nat.le_of_succ_le_succ enough)
  | @token position c rest kind count final finalText noBlank read _ later =>
      cases limit with
      | zero => cases enough
      | succ limit =>
          have progress := (begins_of_readToken read).count_pos
          have enoughLeft : ((c :: rest).drop count).length ≤ limit := by
            rw [List.length_drop]
            omega
          rw [scanFrom, if_neg (by simp [noBlank]), read]
          dsimp only
          rw [later starts fault enoughLeft]
          rfl

/-- The scanner stops at a numeral exactly when it comes to one that cannot be read. -/
theorem scan_eq_numeral_iff
    {text : String} {error : NumeralError} :
    scan text = .error (.numeral error) ↔
      ∃ position rest, Reaches 0 text.toList position rest ∧ startsNumeral rest = true ∧
        readNumeral (numeral rest) = .error error := by
  constructor
  · exact scanFrom_eq_numeral
  · rintro ⟨position, rest, reached, starts, fault⟩
    exact reached.scanFrom_stops starts fault (Nat.le_refl _)

end Token

/-! ## The parser -/

namespace ExprParser

/-- A parser that finds faults of syntax only. -/
def Syntactic {α : Type} (outcome : Except ExprProblem α) : Prop :=
  ∀ error, outcome ≠ .error (.numeral error)

theorem syntactic_ok {α : Type} (result : α) : Syntactic (.ok result) := nofun

theorem syntactic_malformed {α : Type} (fault : SyntaxFault) (position : Nat) :
    Syntactic (.error (.malformed fault position) : Except ExprProblem α) := nofun

theorem Syntactic.map
    {α β : Type} {outcome : Except ExprProblem α} (syntactic : Syntactic outcome) (f : α → β) :
    Syntactic (outcome.map f) :=
  fun error failed => syntactic error (Outcome.map_eq_error_iff.1 failed)

theorem Syntactic.bind
    {α β : Type} {outcome : Except ExprProblem α} (syntactic : Syntactic outcome)
    {next : α → Except ExprProblem β} (later : ∀ result, Syntactic (next result)) :
    Syntactic (outcome >>= next) := by
  intro error failed
  rcases Outcome.bind_eq_error_iff.1 failed with failed | ⟨result, _, failed⟩
  · exact syntactic error failed
  · exact later result error failed

theorem Syntactic.of_eq_error
    {α β : Type} {outcome : Except ExprProblem α} (syntactic : Syntactic outcome)
    {problem : ExprProblem} (failed : outcome = .error problem) :
    Syntactic (.error problem : Except ExprProblem β) := by
  rintro error same
  cases same
  exact syntactic error failed

theorem syntactic_expect (symbol : Symbol) (tokens : List Token) :
    Syntactic (expect symbol tokens) := by
  unfold expect
  split
  · split
    · exact syntactic_ok _
    · exact syntactic_malformed _ _
  · exact syntactic_malformed _ _

variable {nested operand : ExprParser}

theorem syntactic_primary
    (inner : ∀ tokens, Syntactic (nested tokens)) (tokens : List Token) :
    Syntactic (primary nested tokens) := by
  unfold primary
  split
  case h_6 =>
    split
    · rename_i failed
      exact (inner _).of_eq_error failed
    · exact (syntactic_expect _ _).map _
  all_goals first | exact syntactic_ok _ | exact syntactic_malformed _ _

theorem syntactic_signed
    (inner : ∀ tokens, Syntactic (operand tokens)) (tokens : List Token) :
    Syntactic (signed operand tokens) := by
  fun_induction signed operand tokens with
  | case1 position rest later => exact later.map _
  | case2 position rest later => exact later
  | case3 tokens => exact inner tokens

theorem syntactic_negated
    (inner : ∀ tokens, Syntactic (operand tokens)) (tokens : List Token) :
    Syntactic (negated operand tokens) := by
  fun_induction negated operand tokens with
  | case1 position rest later => exact later.map _
  | case2 tokens => exact inner tokens

theorem syntactic_chainFrom
    (inner : ∀ tokens, Syntactic (operand tokens)) (operator? : Symbol → Option BinaryOp)
    (limit : Nat) (left : Expr) (tokens : List Token) :
    Syntactic (chainFrom operator? operand limit left tokens) := by
  fun_induction chainFrom operator? operand limit left tokens with
  | case1 left limit symbol position rest op isOperator problem failed =>
      exact (inner _).of_eq_error failed
  | case2 left limit symbol position rest op isOperator right after read later => exact later
  | case3 => exact syntactic_ok _
  | case4 => exact syntactic_ok _

theorem syntactic_chain
    (inner : ∀ tokens, Syntactic (operand tokens)) (operator? : Symbol → Option BinaryOp)
    (tokens : List Token) :
    Syntactic (chain operator? operand tokens) := by
  unfold chain
  split
  · rename_i failed
    exact (inner _).of_eq_error failed
  · exact syntactic_chainFrom inner _ _ _ _

theorem syntactic_compared
    (inner : ∀ tokens, Syntactic (operand tokens)) (tokens : List Token) :
    Syntactic (compared operand tokens) := by
  unfold compared
  split
  · rename_i failed
    exact (inner _).of_eq_error failed
  · exact (inner _).map _
  · exact syntactic_ok _

theorem syntactic_disjunction
    (inner : ∀ tokens, Syntactic (nested tokens)) (tokens : List Token) :
    Syntactic (disjunction nested tokens) := by
  have products := syntactic_chain (syntactic_signed (syntactic_primary inner)) productOp?
  have comparisons := syntactic_compared (syntactic_chain products sumOp?)
  exact syntactic_chain (syntactic_chain (syntactic_negated comparisons) andOp?) orOp? tokens

theorem syntactic_ternary (depth : Nat) (tokens : List Token) :
    Syntactic (ternary depth tokens) := by
  induction depth generalizing tokens with
  | zero => exact syntactic_malformed _ _
  | succ depth inner =>
      unfold ternary
      split
      · rename_i failed
        exact (syntactic_disjunction inner tokens).of_eq_error failed
      · refine (inner _).bind fun whenTrue => ?_
        refine (syntactic_expect _ _).bind fun afterColon => ?_
        exact (inner _).bind fun whenFalse => syntactic_ok _
      · exact syntactic_ok _

/-- Whatever is wrong with a token list is a fault of syntax. -/
theorem syntactic_whole (tokens : List Token) : Syntactic (whole tokens) := by
  unfold whole
  split
  · exact syntactic_malformed _ _
  · split
    · rename_i failed
      exact (syntactic_ternary _ tokens).of_eq_error failed
    · exact syntactic_ok _
    · exact syntactic_malformed _ _

end ExprParser

namespace Expr

/-- A text in which the scanner comes to a numeral that cannot be read. -/
def Unreadable (text : String) : Prop :=
  ∃ position rest, Token.Reaches 0 text.toList position rest ∧ Token.startsNumeral rest = true ∧
    Token.Unreadable (Token.numeral rest)

theorem parse_eq_numeral_iff
    {text : String} {error : NumeralError} :
    parse text = .error (.numeral error) ↔ Token.scan text = .error (.numeral error) := by
  rw [parse]
  cases scanned : Token.scan text with
  | error problem => cases problem <;> simp [errorOf]
  | ok tokens =>
      dsimp only
      refine iff_of_false ?_ nofun
      intro failed
      cases parsed : ExprParser.whole tokens with
      | ok expr => rw [parsed] at failed; cases failed
      | error problem =>
          rw [parsed] at failed
          cases problem with
          | malformed fault position => cases failed
          | numeral error => exact ExprParser.syntactic_whole tokens error parsed

/-- Reading an expression ends with the fault of a numeral exactly when the scanner comes to a
numeral that cannot be read. -/
theorem parse_stops_iff (text : String) :
    (∃ error, parse text = .error (.numeral error)) ↔ Unreadable text := by
  constructor
  · rintro ⟨error, failed⟩
    rcases Token.scan_eq_numeral_iff.1 (parse_eq_numeral_iff.1 failed) with
      ⟨position, rest, reached, starts, fault⟩
    refine ⟨position, rest, reached, starts, ?_⟩
    by_contra readable
    rcases (Token.readNumeral_succeeds_iff starts).2 readable with ⟨n, read⟩
    cases read.symm.trans fault
  · rintro ⟨position, rest, reached, starts, unreadable⟩
    cases read : Token.readNumeral (Token.numeral rest) with
    | ok n => exact absurd unreadable ((Token.readNumeral_succeeds_iff starts).1 ⟨n, read⟩)
    | error error =>
        refine ⟨error, parse_eq_numeral_iff.2 (Token.scan_eq_numeral_iff.2 ?_)⟩
        exact ⟨position, rest, reached, starts, read⟩

theorem not_unreadable_of_blank
    {text : String} (blank : Text.isBlankText text = true) :
    ¬Unreadable text := by
  rintro ⟨position, rest, reached, starts, _⟩
  rcases Token.startsNumeral_nonempty starts with ⟨c, rest, rfl, noBlank⟩
  have blanks := reached.blanks (List.all_eq_true.1 blank)
  cases noBlank.symm.trans (blanks c List.mem_cons_self)

end Expr

end RowPlan
