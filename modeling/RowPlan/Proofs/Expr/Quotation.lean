import RowPlan.Expr.Eval
import RowPlan.Proofs.Expr.Recognition
import RowPlan.Proofs.Field.Resolution

/-!
# Columns and texts between quotes

Between quotes every text can be written: a backslash goes in front of each backslash and of each quote
of the kind in use, and all other characters stand for themselves. The scanner takes the backslashes away
again, and it takes no quote of the text for the closing one, however the text ends.

A quoted text is a literal. A name in field quotes is a reference, and the pointer to a column leads
there exactly, also where other columns differ from it only in case or mean the same.
-/

namespace RowPlan

namespace Token

/-- A mark that quotes texts or field names. -/
def IsQuote (quote : Char) : Prop := quote = '\x27' ∨ quote = '"' ∨ quote = fieldQuote

/-- A text as it is written between quotes. -/
def escape (quote : Char) (text : List Char) : List Char :=
  text.flatMap fun c => if c = '\\' ∨ c = quote then ['\\', c] else [c]

/-- A text as it is written, between two quotes. -/
def quotation (quote : Char) (text : String) : String :=
  String.ofList (quote :: (escape quote text.toList ++ [quote]))

/-- What a quotation is read as. -/
def ofQuotation (quote : Char) (text : String) : TokenKind :=
  if quote = fieldQuote then .field text else .quoted text

theorem length_quotation (quote : Char) (text : String) :
    (quotation quote text).length = (escape quote text.toList).length + 2 := by
  rw [quotation, String.length_ofList, List.length_cons, List.length_append, List.length_singleton]

theorem quotedText?_cons
    {quote c : Char} (noBackslash : c ≠ '\\') (rest : List Char) :
    quotedText? quote (c :: rest) =
      if c = quote then some ([], 1)
      else (quotedText? quote rest).map fun (text, count) => (c :: text, count + 1) := by
  rw [quotedText?]
  rintro _ _ rfl
  exact absurd rfl noBackslash

/-- A quoted text ends at the quote after it and not before. -/
theorem quotedText?_escape
    {quote : Char} (noBackslash : quote ≠ '\\') (text rest : List Char) :
    quotedText? quote (escape quote text ++ quote :: rest) =
      some (text, (escape quote text).length + 1) := by
  induction text with
  | nil => exact (quotedText?_cons noBackslash rest).trans (if_pos rfl)
  | cons c others later =>
      rw [escape] at later ⊢
      rw [List.flatMap_cons, List.append_assoc]
      by_cases special : c = '\\' ∨ c = quote
      · rw [if_pos special, List.cons_append, List.singleton_append, quotedText?, later]
        rfl
      · rw [if_neg special]
        rw [not_or] at special
        rw [List.singleton_append, quotedText?_cons special.1, if_neg special.2, later]
        rfl

section Quote

variable {quote : Char} (isQuote : IsQuote quote)

include isQuote

theorem IsQuote.ne_backslash : quote ≠ '\\' := by
  rcases isQuote with rfl | rfl | rfl <;> decide

theorem IsQuote.isBlank_eq_false : Text.isBlank quote = false := by
  rcases isQuote with rfl | rfl | rfl <;> decide

theorem IsQuote.startsNumeral_eq_false (rest : List Char) : startsNumeral (quote :: rest) = false := by
  rcases isQuote with rfl | rfl | rfl <;> rfl

/-- A quotation is one token, whatever comes after it. -/
theorem readToken_quotation (position : Nat) (text : String) (rest : List Char) :
    readToken position quote (escape quote text.toList ++ quote :: rest) =
      .ok (ofQuotation quote text, (quotation quote text).length) := by
  have closed := quotedText?_escape isQuote.ne_backslash text.toList rest
  have quotes : (quote = '\x27' || quote = '"' || quote = fieldQuote) = true := by
    simpa [IsQuote, or_assoc] using isQuote
  rw [readToken, isQuote.startsNumeral_eq_false, if_neg Bool.false_ne_true, if_pos quotes, readQuoted,
    closed, length_quotation]
  simp [ofQuotation]

theorem scan_quotation (text : String) :
    scan (quotation quote text) =
      .ok [⟨ofQuotation quote text, 0⟩, ⟨.finish, (quotation quote text).length⟩] := by
  have read := readToken_quotation isQuote 0 text []
  have nothingLeft :
      (quote :: (escape quote text.toList ++ [quote])).drop (quotation quote text).length = [] := by
    apply List.drop_eq_nil_of_le
    apply Nat.le_of_eq
    rw [quotation, String.length_ofList]
  rw [scan, quotation, String.toList_ofList, List.length_cons, scanFrom, isQuote.isBlank_eq_false,
    if_neg Bool.false_ne_true, read]
  dsimp only
  rw [nothingLeft, Nat.zero_add]
  cases (escape quote text.toList ++ [quote]).length <;> rfl

end Quote

theorem ofQuotation_ne_finish (quote : Char) (text : String) : ofQuotation quote text ≠ .finish := by
  rw [ofQuotation]
  split <;> nofun

end Token

/-! ## Expressions -/

/-- A token that is an expression by itself. -/
theorem Grammar.Derives.ternary_of_primary
    {tokens : List Token} {expr : Expr} (derivation : Derives .primary tokens expr) :
    Derives .ternary tokens expr :=
  .ternaryPlain (.disjunctionPlain (.conjunctionPlain (.negationPlain (.comparisonPlain (.sumPlain
    (.productPlain (.signedPlain derivation)))))))

namespace Expr

/-- A quotation is the whole expression that its token is. -/
theorem parse_quotation
    {quote : Char} (isQuote : Token.IsQuote quote) (text : String) {expr : Expr}
    (derivation : Grammar.Derives .primary [⟨Token.ofQuotation quote text, 0⟩] expr) :
    parse (Token.quotation quote text) = .ok expr := by
  have noFinish : ∀ token ∈ [(⟨Token.ofQuotation quote text, 0⟩ : Token)], token.kind ≠ .finish := by
    simpa using Token.ofQuotation_ne_finish quote text
  have whole := (Grammar.whole_eq_ok_iff noFinish (Token.quotation quote text).length).2
    derivation.ternary_of_primary
  rw [parse, Token.scan_quotation isQuote]
  exact congrArg (Except.mapError _) whole

theorem parse_quotedText
    {quote : Char} (isText : quote = '\x27' ∨ quote = '"') (text : String) :
    parse (Token.quotation quote text) = .ok (.literal (.str text)) := by
  have noField : quote ≠ Token.fieldQuote := by rcases isText with rfl | rfl <;> decide
  apply parse_quotation
  · exact isText.imp_right Or.inl
  · rw [Token.ofQuotation, if_neg noField]
    exact .quoted

theorem parse_quotedField (name : String) :
    parse (Token.quotation Token.fieldQuote name) = .ok (.field name) :=
  parse_quotation (.inr (.inr rfl)) name .field

theorem eval_column
    {row : Row} {key : String} {value : Value} (given : key ≠ "") (found : row.find? key = some value) :
    (field (Pointer.join [key])).eval row = some value := by
  have isField : key ∈ row.keys := by
    by_contra absent
    cases (Row.find?_eq_none_iff.2 absent).symm.trans found
  rw [eval, Field.lookup, Field.read_join_singleton given isField, found]

/--
Every column and every text can be written in an expression. The pointer to a column of a row in field
quotes is an expression with the value of that column, whatever its name is made of, and a text between
single or double quotes is an expression for that text.
-/
theorem columns_and_texts_written :
    (∀ (row : Row) (key : String) (value : Value), key ≠ "" → row.find? key = some value →
      ∃ expr, parse (Token.quotation Token.fieldQuote (Pointer.join [key])) = .ok expr ∧
        expr.eval row = some value ∧ expr.evalOrNull row = value) ∧
    ∀ text : String,
      parse (Token.quotation '\x27' text) = .ok (.literal (.str text)) ∧
        parse (Token.quotation '"' text) = .ok (.literal (.str text)) := by
  constructor
  · intro row key value given found
    have evaluated := eval_column given found
    exact ⟨_, parse_quotedField _, evaluated, congrArg (Option.getD · Value.null) evaluated⟩
  · exact fun text => ⟨parse_quotedText (.inl rfl) text, parse_quotedText (.inr rfl) text⟩

/-- A column is written with all the marks that a name can have, beside one that differs from it in case
only; and texts end with a backslash or a quote. -/
theorem columns_and_texts_written_marks :
    let key := "a\x60/~\\"
    let row : Row := [("A\x60/~\\", .ofNat 1), (key, .ofNat 2)]
    key ≠ "" ∧ row.find? key = some (.ofNat 2) ∧
      Token.quotation Token.fieldQuote (Pointer.join [key]) = "\x60/a\\\x60~1~0\\\\\x60" ∧
      (∃ expr, parse "\x60/a\\\x60~1~0\\\\\x60" = .ok expr ∧ expr.evalOrNull row = .ofNat 2) ∧
      parse "\x27it\\\x27s \\\\\x27" = .ok (.literal (.str "it\x27s \\")) ∧
      parse "\"null\\\"\"" = .ok (.literal (.str "null\"")) := by
  intro key row
  have given : key ≠ "" := by decide
  have found : row.find? key = some (.ofNat 2) := by rfl
  have written :
      Token.quotation Token.fieldQuote (Pointer.join [key]) = "\x60/a\\\x60~1~0\\\\\x60" := by
    decide +kernel
  rcases columns_and_texts_written with ⟨columns, texts⟩
  rcases columns row key _ given found with ⟨expr, parsed, _, value⟩
  rw [written] at parsed
  exact ⟨given, found, written, ⟨expr, parsed, value⟩, (texts "it\x27s \\").1, (texts "null\"").2⟩

end Expr

end RowPlan
