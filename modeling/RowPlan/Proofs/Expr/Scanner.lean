import RowPlan.Proofs.Number.Numeral
import RowPlan.Proofs.Outcome
import RowPlan.Expr.Token

/-!
# What the scanner reads

A token is a numeral, a quoted text, a word or a symbol. Whichever it is, it takes at least one
character, so that the scanner gets ahead; and a numeral always has the parts that a numeral needs,
whether it can be read or not.
-/

namespace RowPlan.Token

/-! ## The parts of a numeral -/

theorem digits_takeWhile (text : List Char) : Decimal.Digits (text.takeWhile Text.isDigit) :=
  fun c member => List.all_eq_true.1 List.all_takeWhile c member

theorem markedDigits_cases (mark rest : List Char) :
    markedDigits mark rest = [] ∨
      ∃ digits, markedDigits mark rest = mark ++ digits ∧ Decimal.Digits digits ∧ digits ≠ [] := by
  rw [markedDigits]
  split
  · exact Or.inl rfl
  · rename_i nonempty
    rw [List.isEmpty_iff] at nonempty
    exact Or.inr ⟨_, rfl, digits_takeWhile rest, nonempty⟩

theorem isFraction_fraction (text : List Char) : Decimal.IsFraction (fraction text) := by
  unfold fraction
  split
  · rename_i rest
    rcases markedDigits_cases ['.'] rest with none | ⟨digits, marked, digitsOnly, nonempty⟩
    · rw [none]
      exact .none
    · rw [marked]
      exact .digits digitsOnly nonempty
  · exact .none

theorem isExponent_exponent (text : List Char) : Decimal.IsExponent (exponent text) := by
  unfold exponent
  split
  · rename_i mark rest
    split
    · rename_i isMark
      rw [Bool.or_eq_true, beq_iff_eq, beq_iff_eq] at isMark
      -- The sign, if there is one, is taken into the mark of the digits.
      have marked (sign rest : List Char) (isSign : sign = [] ∨ sign = ['+'] ∨ sign = ['-']) :
          Decimal.IsExponent (markedDigits (mark :: sign) rest) := by
        rcases markedDigits_cases (mark :: sign) rest with none | ⟨digits, shape, only, nonempty⟩
        · rw [none]
          exact .none
        · rw [shape]
          exact .digits isMark isSign only nonempty
      split
      · exact marked ['+'] _ (Or.inr (Or.inl rfl))
      · exact marked ['-'] _ (Or.inr (Or.inr rfl))
      · exact marked [] _ (Or.inl rfl)
    · exact .none
  · exact .none

/-- Where a numeral starts it has digits, before its point or after it. -/
theorem numeral_parts
    {text : List Char} (starts : startsNumeral text = true) :
    ∃ whole point exponent,
      numeral text = whole ++ point ++ exponent ∧ Decimal.Numeral whole point exponent := by
  refine ⟨_, _, _, rfl, digits_takeWhile text, isFraction_fraction _, isExponent_exponent _, ?_⟩
  unfold startsNumeral at starts
  split at starts
  · rename_i c rest
    right
    have noWhole : ('.' :: c :: rest).takeWhile Text.isDigit = [] := rfl
    rw [noWhole]
    simp [fraction, markedDigits, starts]
  · left
    simp [starts]
  · cases starts

theorem startsNumeral_nonempty
    {text : List Char} (starts : startsNumeral text = true) :
    ∃ c rest, text = c :: rest ∧ Text.isBlank c = false := by
  unfold startsNumeral at starts
  split at starts
  · exact ⟨_, _, rfl, by decide⟩
  · exact ⟨_, _, rfl, Text.isBlank_of_isDigit starts⟩
  · cases starts

theorem numeral_length_pos
    {text : List Char} (starts : startsNumeral text = true) :
    0 < (numeral text).length := by
  rcases numeral_parts starts with ⟨whole, point, exponent, shape, parts⟩
  rw [shape, List.length_append, List.length_append]
  rcases parts.nonempty with given | given
  · have := List.length_pos_iff.2 given
    omega
  · have := List.length_pos_iff.2 given
    omega

/-! ## Tokens -/

/-- The token at the start of a text and how many characters it takes. -/
inductive Begins (c : Char) (rest : List Char) : TokenKind → Nat → Prop where
  | number {n} :
      startsNumeral (c :: rest) = true → readNumeral (numeral (c :: rest)) = .ok n →
      Begins c rest (.number n) (numeral (c :: rest)).length
  | field {text count} :
      c = fieldQuote → quotedText? c rest = some (text, count) →
      Begins c rest (.field (String.ofList text)) (count + 1)
  | quoted {text count} :
      c = '\x27' ∨ c = '"' → quotedText? c rest = some (text, count) →
      Begins c rest (.quoted (String.ofList text)) (count + 1)
  | word :
      Text.isLetter c = true ∨ c = '_' →
      Begins c rest (ofWord (String.ofList (c :: rest.takeWhile Text.isWordChar)))
        (c :: rest.takeWhile Text.isWordChar).length
  | symbol {spelling symbol} :
      (spelling, symbol) ∈ Symbol.spellings → Begins c rest (.symbol symbol) spelling.length

theorem begins_of_readToken
    {position : Nat} {c : Char} {rest : List Char} {kind : TokenKind} {count : Nat}
    (read : readToken position c rest = .ok (kind, count)) :
    Begins c rest kind count := by
  rw [readToken] at read
  split at read
  · rename_i starts
    dsimp only at read
    split at read
    · rename_i numeralRead
      cases read
      exact .number starts numeralRead
    · cases read
  · split at read
    · rename_i isQuote
      rw [readQuoted] at read
      split at read
      · rename_i closed
        cases read
        split
        · rename_i isField
          exact .field isField closed
        · rename_i noField
          exact .quoted (by simpa [noField] using isQuote) closed
      · cases read
    · split at read
      · rename_i isWord
        rcases Prod.mk.inj (Except.ok.inj read) with ⟨rfl, rfl⟩
        exact .word (by simpa using isWord)
      · rw [readSymbol] at read
        split at read
        · rename_i found
          cases read
          exact .symbol (List.mem_of_find?_eq_some found)
        · cases read

/-- Every token takes at least one character. -/
theorem Begins.count_pos
    {c : Char} {rest : List Char} {kind : TokenKind} {count : Nat}
    (begins : Begins c rest kind count) :
    0 < count := by
  cases begins with
  | number starts _ => exact numeral_length_pos starts
  | field => exact Nat.succ_pos _
  | quoted => exact Nat.succ_pos _
  | word => exact Nat.succ_pos _
  | symbol listed =>
      have spelled : ∀ spelling ∈ Symbol.spellings, 0 < spelling.1.length := by decide
      exact spelled _ listed

/-- No token that is read from a text is the marker at the end. -/
theorem Begins.kind_ne_finish
    {c : Char} {rest : List Char} {kind : TokenKind} {count : Nat}
    (begins : Begins c rest kind count) :
    kind ≠ .finish := by
  cases begins with
  | word _ =>
      rw [ofWord]
      split <;> nofun
  | _ => nofun

/-! ## The way of the scanner -/

/-- The scanner, at an offset of a text, comes to a later one: it skips blanks and takes tokens. -/
inductive Reaches : Nat → List Char → Nat → List Char → Prop where
  | here {position text} : Reaches position text position text
  | blank {position c rest final finalText} :
      Text.isBlank c = true → Reaches (position + 1) rest final finalText →
      Reaches position (c :: rest) final finalText
  | token {position c rest kind count final finalText} :
      Text.isBlank c = false → readToken position c rest = .ok (kind, count) →
      Reaches (position + count) ((c :: rest).drop count) final finalText →
      Reaches position (c :: rest) final finalText

/-- From blanks the scanner comes to nothing but blanks. -/
theorem Reaches.blanks
    {position final : Nat} {text rest : List Char} (reached : Reaches position text final rest)
    (blanks : ∀ c ∈ text, Text.isBlank c = true) :
    ∀ c ∈ rest, Text.isBlank c = true := by
  induction reached with
  | here => exact blanks
  | blank _ _ later => exact later fun c member => blanks c (List.mem_cons_of_mem _ member)
  | token noBlank _ _ _ => cases noBlank.symm.trans (blanks _ List.mem_cons_self)

/-- A token that the scanner takes where it comes to an offset of the text. -/
def ReadAt (start : Nat) (text : List Char) (token : Token) : Prop :=
  ∃ c rest count, Reaches start text token.position (c :: rest) ∧ Text.isBlank c = false ∧
    readToken token.position c rest = .ok (token.kind, count)

theorem not_readAt_nil (start : Nat) (token : Token) : ¬ReadAt start [] token := by
  rintro ⟨c, rest, count, ⟨⟩, _⟩

theorem readAt_blank_iff
    {start : Nat} {c : Char} {rest : List Char} (blank : Text.isBlank c = true) {token : Token} :
    ReadAt start (c :: rest) token ↔ ReadAt (start + 1) rest token := by
  constructor
  · rintro ⟨c', rest', count, reached, noBlank, read⟩
    cases reached with
    | here => cases blank.symm.trans noBlank
    | blank _ later => exact ⟨c', rest', count, later, noBlank, read⟩
    | token noBlank _ _ => cases blank.symm.trans noBlank
  · rintro ⟨c', rest', count, reached, noBlank, read⟩
    exact ⟨c', rest', count, .blank blank reached, noBlank, read⟩

theorem readAt_token_iff
    {start : Nat} {c : Char} {rest : List Char} (noBlank : Text.isBlank c = false)
    {kind : TokenKind} {count : Nat} (read : readToken start c rest = .ok (kind, count))
    {token : Token} :
    ReadAt start (c :: rest) token ↔
      token = ⟨kind, start⟩ ∨ ReadAt (start + count) ((c :: rest).drop count) token := by
  constructor
  · rintro ⟨c', rest', count', reached, noBlank', read'⟩
    cases reached with
    | here =>
        left
        cases token
        cases read.symm.trans read'
        rfl
    | blank blank _ => cases blank.symm.trans noBlank
    | token _ sameRead later =>
        cases read.symm.trans sameRead
        exact .inr ⟨c', rest', count', later, noBlank', read'⟩
  · rintro (rfl | ⟨c', rest', count', reached, noBlank', read'⟩)
    · exact ⟨c, rest, count, .here, noBlank, read⟩
    · exact ⟨c', rest', count', .token noBlank read reached, noBlank', read'⟩

/-- Besides the marker at the end, the tokens of a text are those that the scanner takes on its way. -/
theorem mem_scanFrom_iff
    {limit position : Nat} {text : List Char} {tokens : List Token} (enough : text.length ≤ limit)
    (scanned : scanFrom limit position text = .ok tokens) {token : Token}
    (notFinish : token.kind ≠ .finish) :
    token ∈ tokens ↔ ReadAt position text token := by
  have notMarker (position : Nat) : token ∉ [⟨.finish, position⟩] := by
    rw [List.mem_singleton]
    rintro rfl
    exact notFinish rfl
  induction limit generalizing position text tokens with
  | zero =>
      cases List.length_eq_zero_iff.1 (Nat.le_zero.1 enough)
      cases scanned
      exact iff_of_false (notMarker _) (not_readAt_nil _ _)
  | succ limit later =>
      cases text with
      | nil =>
          cases scanned
          exact iff_of_false (notMarker _) (not_readAt_nil _ _)
      | cons c rest =>
          rw [scanFrom] at scanned
          split at scanned
          · rename_i blank
            rw [readAt_blank_iff blank]
            exact later (Nat.le_of_succ_le_succ enough) scanned
          · rename_i noBlank
            rw [Bool.not_eq_true] at noBlank
            split at scanned
            · cases scanned
            · rename_i kind count read
              rcases Outcome.map_eq_ok_iff.1 scanned with ⟨more, moreScanned, rfl⟩
              have progress := (begins_of_readToken read).count_pos
              have enoughLeft : ((c :: rest).drop count).length ≤ limit := by
                rw [List.length_drop]
                omega
              rw [readAt_token_iff noBlank read, List.mem_cons]
              exact or_congr_right (later enoughLeft moreScanned)

end RowPlan.Token
