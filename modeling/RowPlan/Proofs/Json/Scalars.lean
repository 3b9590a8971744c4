import RowPlan.Proofs.Json.Grammar
import RowPlan.Proofs.Outcome

/-!
# Reading strings, numbers and words

The readers of the tokens of a JSON text take what the grammar calls a token, and nothing else. A string
ends with its quote, whatever follows. A number or a word goes as far as it can, so it is read as it is
written where the text stops it: at its end, or before white space, a comma or a closing bracket.
-/

namespace RowPlan.Json

/-- The characters that may follow a value. -/
def stopping : List Char := [' ', '\t', '\n', '\r', ',', ']', '\x7d']

/-- A text that may follow a value. -/
def Stops (rest : List Char) : Prop := ∀ c, rest.head? = some c → c ∈ stopping

/-- A text that does not go on with a character of a class. -/
def Avoids (rest : List Char) (class_ : Char → Bool) : Prop :=
  ∀ c, rest.head? = some c → class_ c = false

theorem Avoids.takeWhile_append
    {text rest : List Char} {class_ : Char → Bool} (within : ∀ c ∈ text, class_ c = true)
    (avoids : Avoids rest class_) :
    (text ++ rest).takeWhile class_ = text := by
  have stopped : rest.takeWhile class_ = [] := by
    cases rest with
    | nil => rfl
    | cons c rest => simp [avoids c rfl]
  rw [List.takeWhile_append_of_pos within, stopped, List.append_nil]

theorem Stops.avoids
    {rest : List Char} (stops : Stops rest) {class_ : Char → Bool}
    (disjoint : stopping.any class_ = false) :
    Avoids rest class_ :=
  fun c atHead => eq_false_of_ne_true (List.any_eq_false.1 disjoint c (stops c atHead))

theorem isSpace_cases {c : Char} (space : isSpace c = true) :
    c = ' ' ∨ c = '\t' ∨ c = '\n' ∨ c = '\r' := by
  simpa [isSpace, or_assoc] using space

theorem mem_stopping_of_isSpace {c : Char} (space : isSpace c = true) : c ∈ stopping := by
  rcases isSpace_cases space with rfl | rfl | rfl | rfl <;> decide

theorem Spaces.stops {gap : List Char} (spaces : Spaces gap) : Stops gap :=
  fun c atHead => mem_stopping_of_isSpace (spaces c (List.mem_of_head? atHead))

theorem Spaces.stops_append
    {gap : List Char} (spaces : Spaces gap) {c : Char} (stopper : c ∈ stopping) (rest : List Char) :
    Stops (gap ++ c :: rest) := by
  cases gap with
  | nil =>
      intro first atHead
      rwa [← Option.some.inj atHead]
  | cons space gap =>
      intro first atHead
      rw [← Option.some.inj atHead]
      exact mem_stopping_of_isSpace (spaces space List.mem_cons_self)

/-! ## White space -/

theorem skipSpaces_append
    {gap : List Char} (spaces : Spaces gap) {rest : List Char} (avoids : Avoids rest isSpace)
    (offset : Nat) :
    Cursor.skipSpaces ⟨offset, gap ++ rest⟩ = ⟨offset + gap.length, rest⟩ := by
  simp only [Cursor.skipSpaces, Cursor.skip, avoids.takeWhile_append spaces, List.drop_left]

/-- Only white space is skipped. -/
theorem skipSpaces_sound (offset : Nat) (text : List Char) :
    ∃ gap after rest, Spaces gap ∧ text = gap ++ rest ∧
      Cursor.skipSpaces ⟨offset, text⟩ = ⟨after, rest⟩ := by
  refine ⟨text.takeWhile isSpace, _, _, List.all_eq_true.1 List.all_takeWhile, ?_, rfl⟩
  exact (List.prefix_iff_eq_append.1 (List.takeWhile_prefix _)).symm

/-! ## Strings -/

theorem prependCode_eq_ok_iff
    {code : Nat} {tail : Except Problem (List Nat × Cursor)} {codes : List Nat} {after : Cursor} :
    prependCode code tail = .ok (codes, after) ↔
      ∃ rest, tail = .ok (rest, after) ∧ codes = code :: rest := by
  rw [prependCode, Outcome.map_eq_ok_iff]
  constructor
  · rintro ⟨⟨rest, end_⟩, read, same⟩
    cases same
    exact ⟨rest, read, rfl⟩
  · rintro ⟨rest, read, rfl⟩
    exact ⟨(rest, after), read, rfl⟩

/-- The inside of a string is read up to its quote. -/
theorem readCodes_body
    {body : List Char} {codes : List Nat} (written : StringBody body codes)
    (rest : List Char) (start offset : Nat) :
    ∃ after, readCodes start offset (body ++ '"' :: rest) = .ok (codes, ⟨after, rest⟩) := by
  induction written generalizing offset with
  | nil => exact ⟨_, rfl⟩
  | @plain c body codes plain written inBody =>
      rcases isPlain_iff.1 plain with ⟨notQuote, notBackslash, printable⟩
      rcases inBody (offset + 1) with ⟨after, read⟩
      refine ⟨after, ?_⟩
      rw [List.cons_append, readCodes]
      · rw [if_neg (Nat.not_lt.2 printable)]
        exact prependCode_eq_ok_iff.2 ⟨codes, read, rfl⟩
      all_goals intros; contradiction
  | @escape c code body codes simple written inBody =>
      rcases inBody (offset + 2) with ⟨after, read⟩
      refine ⟨after, ?_⟩
      have notUnicode : c ≠ 'u' := by
        rintro rfl
        cases simple
      rw [List.cons_append, List.cons_append, readCodes]
      · rw [simple]
        exact prependCode_eq_ok_iff.2 ⟨codes, read, rfl⟩
      all_goals intros; contradiction
  | @unicode a b c d code body codes hex written inBody =>
      rcases inBody (offset + 6) with ⟨after, read⟩
      refine ⟨after, ?_⟩
      -- A string goes on after four digits, with its quote at least.
      obtain ⟨next, more, goesOn⟩ : ∃ next more, body ++ '"' :: rest = next :: more := by
        cases body <;> exact ⟨_, _, rfl⟩
      simp only [List.cons_append]
      rw [goesOn] at read ⊢
      rw [readCodes.eq_3 start offset a b c d code next more hex]
      exact prependCode_eq_ok_iff.2 ⟨codes, read, rfl⟩

/-- Whatever is read as codes is the inside of a string, with its quote behind it. -/
theorem readCodes_sound
    {start offset : Nat} {text : List Char} {codes : List Nat} {after : Cursor}
    (read : readCodes start offset text = .ok (codes, after)) :
    ∃ body, StringBody body codes ∧ text = body ++ '"' :: after.rest := by
  fun_induction readCodes start offset text generalizing codes with
  | case1 => cases read
  | case2 offset rest =>
      cases read
      exact ⟨[], .nil, rfl⟩
  | case3 offset a b c d code next more hex inRest =>
      rcases prependCode_eq_ok_iff.1 read with ⟨codes, restRead, rfl⟩
      rcases inRest restRead with ⟨body, written, rest⟩
      exact ⟨_, .unicode hex written, congrArg ('\\' :: 'u' :: a :: b :: c :: d :: ·) rest⟩
  | case4 => cases read
  | case5 => cases read
  | case6 offset c rest _ _ code simple inRest =>
      rcases prependCode_eq_ok_iff.1 read with ⟨codes, restRead, rfl⟩
      rcases inRest restRead with ⟨body, written, rfl⟩
      exact ⟨_, .escape simple written, rfl⟩
  | case7 => cases read
  | case8 => cases read
  | case9 => cases read
  | case10 offset c rest notQuote _ _ notEscape notBackslash printable inRest =>
      rcases prependCode_eq_ok_iff.1 read with ⟨codes, restRead, rfl⟩
      rcases inRest restRead with ⟨body, written, rfl⟩
      refine ⟨_, .plain (isPlain_iff.2 ⟨notQuote, ?_, Nat.not_lt.1 printable⟩) written, rfl⟩
      rintro rfl
      cases body with
      | nil => exact notEscape _ _ rfl rfl
      | cons next body => exact notEscape _ _ rfl rfl

/-- A string is read up to its closing quote, whatever follows. -/
theorem readString_append
    {body : List Char} {codes : List Nat} (written : StringBody body codes)
    (rest : List Char) (offset : Nat) :
    ∃ after, readString ⟨offset, '"' :: (body ++ '"' :: rest)⟩ = .ok (textOf codes, ⟨after, rest⟩) := by
  rcases readCodes_body written rest offset (offset + 1) with ⟨after, read⟩
  exact ⟨after, Outcome.map_eq_ok_iff.2 ⟨(codes, ⟨after, rest⟩), read, rfl⟩⟩

theorem readString_sound
    {offset : Nat} {text : List Char} {string : String} {after : Cursor}
    (read : readString ⟨offset, '"' :: text⟩ = .ok (string, after)) :
    ∃ body codes, StringBody body codes ∧ string = textOf codes ∧ text = body ++ '"' :: after.rest := by
  rcases Outcome.map_eq_ok_iff.1 read with ⟨⟨codes, end_⟩, codesRead, same⟩
  cases same
  rcases readCodes_sound codesRead with ⟨body, written, rest⟩
  exact ⟨body, codes, written, rfl, rest⟩

/-! ## Numbers -/

theorem digits_takeWhile
    {text : List Char} (some_ : (text.takeWhile Char.isDigit).isEmpty = false) :
    Digits (text.takeWhile Char.isDigit) :=
  ⟨fun none => by simp [none] at some_, List.all_eq_true.1 List.all_takeWhile⟩

theorem wholeDigits_append
    {whole rest : List Char} (written : IsWhole whole) (avoids : Avoids rest Char.isDigit) :
    wholeDigits (whole ++ rest) = whole := by
  rcases written with rfl | ⟨digits, notZero⟩
  · rfl
  · rw [wholeDigits]
    · exact avoids.takeWhile_append digits.2
    · rintro others startsWithZero
      rcases List.exists_cons_of_ne_nil digits.1 with ⟨c, later, rfl⟩
      exact notZero (congrArg some (List.cons.inj startsWithZero).1)

theorem wholeDigits_isPrefix (text : List Char) : wholeDigits text <+: text := by
  fun_cases wholeDigits text with
  | case1 rest => exact List.prefix_append ['0'] rest
  | case2 => exact List.takeWhile_prefix _

theorem isWhole_wholeDigits
    {text : List Char} (some_ : (wholeDigits text).isEmpty = false) : IsWhole (wholeDigits text) := by
  fun_cases wholeDigits text with
  | case1 rest => exact .inl rfl
  | case2 =>
      rename_i notZero
      rw [wholeDigits.eq_2 text notZero] at some_
      refine .inr ⟨digits_takeWhile some_, ?_⟩
      cases text with
      | nil => nofun
      | cons c rest =>
          intro zero
          rw [List.takeWhile_cons] at zero
          split at zero
          · exact notZero rest (congrArg (· :: rest) (Option.some.inj zero))
          · cases zero

theorem fractionPart_append
    {fraction rest : List Char} (written : IsFraction fraction) (avoids : Avoids rest Char.isDigit)
    (noPoint : Avoids rest (· == '.')) :
    fractionPart (fraction ++ rest) = fraction := by
  cases written with
  | none =>
      rw [List.nil_append, fractionPart]
      rintro others rfl
      cases noPoint '.' rfl
  | digits digits =>
      rw [List.cons_append, fractionPart, avoids.takeWhile_append digits.2]
      rw [List.isEmpty_eq_false_iff.2 digits.1]
      rfl

theorem fractionPart_isPrefix (text : List Char) : fractionPart text <+: text := by
  fun_cases fractionPart text with
  | case1 | case3 => exact List.nil_prefix
  | case2 rest => exact (List.prefix_cons_inj '.').2 (List.takeWhile_prefix _)

theorem isFraction_fractionPart (text : List Char) : IsFraction (fractionPart text) := by
  fun_cases fractionPart text with
  | case1 | case3 => exact .none
  | case2 rest digits some_ =>
      exact .digits (digits_takeWhile (eq_false_of_ne_true some_))

theorem exponentSign_isPrefix (text : List Char) : exponentSign text <+: text := by
  fun_cases exponentSign text with
  | case1 rest | case2 rest => exact List.prefix_append [_] rest
  | case3 => exact List.nil_prefix

theorem isSign_exponentSign (text : List Char) :
    exponentSign text = [] ∨ exponentSign text = ['+'] ∨ exponentSign text = ['-'] := by
  fun_cases exponentSign text with
  | case1 => exact .inr (.inl rfl)
  | case2 => exact .inr (.inr rfl)
  | case3 => exact .inl rfl

theorem exponentSign_append
    {sign digits : List Char} (isSign : sign = [] ∨ sign = ['+'] ∨ sign = ['-']) (run : Digits digits)
    (rest : List Char) :
    exponentSign (sign ++ (digits ++ rest)) = sign := by
  rcases isSign with rfl | rfl | rfl
  · rcases List.exists_cons_of_ne_nil run.1 with ⟨c, later, rfl⟩
    have digit : c.isDigit = true := run.2 c List.mem_cons_self
    rw [List.nil_append, List.cons_append, exponentSign]
    all_goals
      rintro others startsWithSign
      rw [(List.cons.inj startsWithSign).1] at digit
      cases digit
  · rfl
  · rfl

theorem exponentPart_append
    {exponent rest : List Char} (written : IsExponent exponent) (avoids : Avoids rest Char.isDigit)
    (noMark : Avoids rest fun c => c == 'e' || c == 'E') :
    exponentPart (exponent ++ rest) = exponent := by
  cases written with
  | none =>
      cases rest with
      | nil => rfl
      | cons c rest => exact if_neg (Bool.eq_false_iff.1 (noMark c rfl))
  | @digits mark sign digits isMark isSign run =>
      have marked : (mark == 'e' || mark == 'E') = true := by simpa using isMark
      simp only [List.cons_append, List.append_assoc, exponentPart, exponentSign_append isSign run,
        if_pos marked, List.drop_left, avoids.takeWhile_append run.2, List.isEmpty_eq_false_iff.2 run.1]
      rfl

theorem exponentPart_isPrefix (text : List Char) : exponentPart text <+: text := by
  fun_cases exponentPart text with
  | case1 | case3 | case4 => exact List.nil_prefix
  | case2 mark rest isMark sign digits =>
      refine (List.prefix_cons_inj mark).2 ?_
      -- The digits come right behind the sign.
      have behind : sign ++ digits <+: sign ++ rest.drop sign.length :=
        (List.prefix_append_right_inj sign).2 (List.takeWhile_prefix _)
      rwa [List.prefix_iff_eq_append.1 (exponentSign_isPrefix rest)] at behind

theorem isExponent_exponentPart (text : List Char) : IsExponent (exponentPart text) := by
  fun_cases exponentPart text with
  | case1 | case3 | case4 => exact .none
  | case2 mark rest isMark sign digits some_ =>
      exact .digits (by simpa using isMark) (isSign_exponentSign rest)
        (digits_takeWhile (eq_false_of_ne_true some_))

theorem numberSign_isPrefix (text : List Char) : numberSign text <+: text := by
  fun_cases numberSign text with
  | case1 rest => exact List.prefix_append ['-'] rest
  | case2 => exact List.nil_prefix

theorem isSign_numberSign (text : List Char) : numberSign text = [] ∨ numberSign text = ['-'] := by
  fun_cases numberSign text with
  | case1 => exact .inr rfl
  | case2 => exact .inl rfl

theorem numberSign_append
    {sign whole : List Char} (isSign : sign = [] ∨ sign = ['-']) (isWhole : IsWhole whole)
    (rest : List Char) :
    numberSign (sign ++ (whole ++ rest)) = sign := by
  rcases isSign with rfl | rfl
  · rcases isWhole.opening with ⟨c, later, rfl, digit⟩
    rw [List.nil_append, List.cons_append, numberSign]
    rintro others startsWithSign
    rw [(List.cons.inj startsWithSign).1] at digit
    cases digit
  · rfl

/-- A text is taken apart into the parts of a number and a rest. -/
structure TakenApart (sign whole fraction exponent rest : List Char) : Prop where
  sign_first : numberSign (sign ++ (whole ++ (fraction ++ (exponent ++ rest)))) = sign
  whole_next : wholeDigits (whole ++ (fraction ++ (exponent ++ rest))) = whole
  fraction_next : fractionPart (fraction ++ (exponent ++ rest)) = fraction
  exponent_last : exponentPart (exponent ++ rest) = exponent

theorem exists_append_of_isPrefix
    {part : List Char → List Char} (comesFirst : ∀ text, part text <+: text) (text : List Char) :
    ∃ first rest, text = first ++ rest ∧ part (first ++ rest) = first := by
  rcases comesFirst text with ⟨rest, same⟩
  exact ⟨part text, rest, same.symm, congrArg part same⟩

/-- Every text is taken apart in this way. -/
theorem exists_takenApart (text : List Char) :
    ∃ sign whole fraction exponent rest,
      text = sign ++ (whole ++ (fraction ++ (exponent ++ rest))) ∧
        TakenApart sign whole fraction exponent rest := by
  rcases exists_append_of_isPrefix numberSign_isPrefix text with ⟨sign, afterSign, rfl, signFirst⟩
  rcases exists_append_of_isPrefix wholeDigits_isPrefix afterSign with ⟨whole, afterWhole, rfl, wholeNext⟩
  rcases exists_append_of_isPrefix fractionPart_isPrefix afterWhole with
    ⟨fraction, afterFraction, rfl, fractionNext⟩
  rcases exists_append_of_isPrefix exponentPart_isPrefix afterFraction with
    ⟨exponent, rest, rfl, exponentLast⟩
  exact ⟨sign, whole, fraction, exponent, rest, rfl, signFirst, wholeNext, fractionNext, exponentLast⟩

/-- A number is read from its parts. -/
theorem readNumber_takenApart
    {sign whole fraction exponent rest : List Char}
    (apart : TakenApart sign whole fraction exponent rest) (offset : Nat) :
    readNumber ⟨offset, sign ++ (whole ++ (fraction ++ (exponent ++ rest)))⟩ =
      if whole.isEmpty then .error (.malformed .noValue offset)
      else if fraction.isEmpty && exponent.isEmpty && decide (Decimal.digitLimit < whole.length) then
        .error (.tooLong whole.length)
      else
        .ok (.num (numberOf sign whole fraction exponent),
          ⟨offset + (sign.length + whole.length + fraction.length + exponent.length), rest⟩) := by
  have dropped :
      (sign ++ (whole ++ (fraction ++ (exponent ++ rest)))).drop
        (sign.length + whole.length + fraction.length + exponent.length) = rest := by
    simp [Nat.add_assoc]
  simp only [readNumber, Cursor.skip, apart.sign_first, List.drop_left, apart.whole_next,
    apart.fraction_next, apart.exponent_last, dropped]

theorem IsFraction.avoids
    {fraction rest : List Char} (written : IsFraction fraction) {class_ : Char → Bool}
    (point : class_ '.' = false) (avoids : Avoids rest class_) :
    Avoids (fraction ++ rest) class_ := by
  cases written with
  | none => exact avoids
  | digits => exact fun c atHead => Option.some.inj atHead ▸ point

theorem IsExponent.avoids
    {exponent rest : List Char} (written : IsExponent exponent) {class_ : Char → Bool}
    (marks : class_ 'e' = false ∧ class_ 'E' = false) (avoids : Avoids rest class_) :
    Avoids (exponent ++ rest) class_ := by
  cases written with
  | none => exact avoids
  | digits isMark =>
      intro c atHead
      rw [← Option.some.inj atHead]
      rcases isMark with rfl | rfl
      · exact marks.1
      · exact marks.2

/-- What is written as a number is taken apart as it is written, if something stops it. -/
theorem NumberParts.takenApart
    {sign whole fraction exponent rest : List Char} (parts : NumberParts sign whole fraction exponent)
    (stops : Stops rest) :
    TakenApart sign whole fraction exponent rest := by
  have noDigit : Avoids (exponent ++ rest) Char.isDigit :=
    parts.isExponent.avoids (by decide) (stops.avoids (by decide))
  refine ⟨?_, ?_, ?_, ?_⟩
  · exact numberSign_append parts.isSign parts.isWhole _
  · exact wholeDigits_append parts.isWhole (parts.isFraction.avoids (by decide) noDigit)
  · apply fractionPart_append parts.isFraction noDigit
    exact parts.isExponent.avoids (by decide) (stops.avoids (by decide))
  · exact exponentPart_append parts.isExponent (stops.avoids (by decide)) (stops.avoids (by decide))

theorem readNumber_append
    {sign whole fraction exponent rest : List Char} (parts : NumberParts sign whole fraction exponent)
    (stops : Stops rest) (offset : Nat) :
    ∃ after,
      readNumber ⟨offset, (sign ++ (whole ++ (fraction ++ exponent))) ++ rest⟩ =
        .ok (.num (numberOf sign whole fraction exponent), ⟨after, rest⟩) := by
  have someWhole : ¬ whole.isEmpty = true := by
    rcases parts.isWhole.opening with ⟨c, later, rfl, _⟩
    nofun
  have notTooLong :
      ¬ (fraction.isEmpty && exponent.isEmpty && decide (Decimal.digitLimit < whole.length)) = true := by
    simp only [Bool.and_eq_true, List.isEmpty_iff, decide_eq_true_eq, not_and, Nat.not_lt]
    exact fun none => parts.short none.1 none.2
  simp only [List.append_assoc]
  rw [readNumber_takenApart (parts.takenApart stops), if_neg someWhole, if_neg notTooLong]
  exact ⟨_, rfl⟩

theorem readNumber_sound
    {offset : Nat} {text : List Char} {value : Value} {after : Cursor}
    (read : readNumber ⟨offset, text⟩ = .ok (value, after)) :
    ∃ number, ScalarText number value ∧ text = number ++ after.rest := by
  rcases exists_takenApart text with ⟨sign, whole, fraction, exponent, rest, rfl, apart⟩
  rw [readNumber_takenApart apart] at read
  split at read
  · cases read
  · rename_i someWhole
    split at read
    · cases read
    · rename_i notTooLong
      cases read
      refine ⟨_, .number ⟨?_, ?_, ?_, ?_, ?_⟩, by simp only [List.append_assoc]⟩
      · exact apart.sign_first ▸ isSign_numberSign _
      · rw [← apart.whole_next]
        exact isWhole_wholeDigits (by rw [apart.whole_next]; exact eq_false_of_ne_true someWhole)
      · exact apart.fraction_next ▸ isFraction_fractionPart _
      · exact apart.exponent_last ▸ isExponent_exponentPart _
      · rintro rfl rfl
        exact Nat.not_lt.1 fun long => notTooLong (by simpa using long)

/-! ## Words -/

/-- Where a digit comes first or behind a minus sign, there is no word. -/
theorem no_word_of_digit
    {sign : List Char} (isSign : sign = [] ∨ sign = ['-']) {c : Char} (digit : c.isDigit = true)
    (rest : List Char) :
    (words.find? fun word => word.1.toList.isPrefixOf (sign ++ c :: rest)) = none := by
  have other (letter : Char) (noDigit : letter.isDigit = false) : ¬ letter = c := by
    rintro rfl
    rw [digit] at noDigit
    cases noDigit
  rcases isSign with rfl | rfl
  · simp [words, other 'n' rfl, other 't' rfl, other 'f' rfl, other 'N' rfl, other 'I' rfl,
      other '-' rfl]
  · simp [words, other 'I' rfl]

theorem readScalar_append
    {text : List Char} {value : Value} (written : ScalarText text value) {rest : List Char}
    (stops : Stops rest) (offset : Nat) :
    ∃ after, readScalar ⟨offset, text ++ rest⟩ = .ok (value, ⟨after, rest⟩) := by
  cases written with
  | word member =>
      simp only [words, List.mem_cons, List.not_mem_nil, or_false, Prod.mk.injEq] at member
      rcases member with ⟨rfl, rfl⟩ | ⟨rfl, rfl⟩ | ⟨rfl, rfl⟩ | ⟨rfl, rfl⟩ | ⟨rfl, rfl⟩ | ⟨rfl, rfl⟩
      all_goals exact ⟨_, rfl⟩
  | number parts =>
      rcases readNumber_append parts stops offset with ⟨after, read⟩
      refine ⟨after, ?_⟩
      rcases parts.isWhole.opening with ⟨c, later, rfl, digit⟩
      rw [readScalar]
      simp only [List.append_assoc, List.cons_append] at read ⊢
      rw [no_word_of_digit parts.isSign digit]
      exact read

theorem readScalar_sound
    {offset : Nat} {text : List Char} {value : Value} {after : Cursor}
    (read : readScalar ⟨offset, text⟩ = .ok (value, after)) :
    ∃ scalar, ScalarText scalar value ∧ text = scalar ++ after.rest := by
  rw [readScalar] at read
  split at read
  · rename_i word found wordFound
    cases read
    have member := List.mem_of_find?_eq_some wordFound
    have comesFirst := List.find?_some wordFound
    refine ⟨word.toList, .word member, ?_⟩
    exact (List.prefix_iff_eq_append.1 (List.isPrefixOf_iff_prefix.1 comesFirst)).symm
  · exact readNumber_sound read

end RowPlan.Json
