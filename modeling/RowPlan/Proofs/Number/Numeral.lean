import RowPlan.Proofs.Text.Digit
import RowPlan.Proofs.Text.LetterCase

/-!
# Numerals that can be read

A numeral of an expression is made of digits, with a fraction and an exponent or without. Whether it
can be read depends on its digits: all of them need a decimal value, and an integer may not have too
many. A decimal numeral is then read as the number that its digits write, scaled by its exponent.
-/

namespace RowPlan.Decimal

/-- Digits of any kind. -/
def Digits (text : List Char) : Prop := ∀ c ∈ text, Text.isDigit c = true

/-- A fraction: nothing, or a point and digits. -/
inductive IsFraction : List Char → Prop where
  | none : IsFraction []
  | digits {digits} : Digits digits → digits ≠ [] → IsFraction ('.' :: digits)

/-- An exponent: nothing, or a mark, an optional sign and digits. -/
inductive IsExponent : List Char → Prop where
  | none : IsExponent []
  | digits {mark sign digits} :
      (mark = 'e' ∨ mark = 'E') → (sign = [] ∨ sign = ['+'] ∨ sign = ['-']) →
      Digits digits → digits ≠ [] → IsExponent (mark :: (sign ++ digits))

/-- The characters of a numeral besides its digits. -/
inductive IsMark : Char → Prop where
  | point : IsMark '.'
  | small : IsMark 'e'
  | capital : IsMark 'E'
  | plus : IsMark '+'
  | minus : IsMark '-'

theorem isMark_of_mem_exponent
    {mark : Char} {sign : List Char} (isMark : mark = 'e' ∨ mark = 'E')
    (isSign : sign = [] ∨ sign = ['+'] ∨ sign = ['-']) :
    ∀ c ∈ mark :: sign, IsMark c := by
  refine List.forall_mem_cons.2 ⟨?_, ?_⟩
  · rcases isMark with rfl | rfl
    · exact .small
    · exact .capital
  · rcases isSign with rfl | rfl | rfl
    · nofun
    · exact List.forall_mem_singleton.2 .plus
    · exact List.forall_mem_singleton.2 .minus

/-- The parts of a numeral: digits, a fraction and an exponent. -/
structure Numeral (whole point exponent : List Char) : Prop where
  digits : Digits whole
  isFraction : IsFraction point
  isExponent : IsExponent exponent
  nonempty : whole ≠ [] ∨ point ≠ []

/-- Every digit has a decimal value. -/
def AllDecimal (text : List Char) : Prop :=
  ∀ c ∈ text, Text.isDigit c = true → Text.decimalDigit? c ≠ none

/-! ## What the reading of a numeral leaves alone -/

/-- A character that a numeral may have: a digit of any kind or a mark. -/
def NumeralChar (c : Char) : Prop := Text.isDigit c = true ∨ IsMark c

theorem NumeralChar.not_blank {c : Char} (allowed : NumeralChar c) : isNumeralBlank c = false := by
  have noBlank : Text.isBlank c = false := by
    rcases allowed with digit | mark
    · exact Text.isBlank_of_isDigit digit
    · cases mark <;> rfl
  rw [isNumeralBlank, noBlank, Bool.false_and]

/-- A digit as it is read is an ASCII digit, or a character beyond ASCII. -/
theorem asciiDigit_cases
    {c : Char} (digit : Text.isDigit c = true) :
    (asciiDigit c).isDigit = true ∨ 128 ≤ (asciiDigit c).toNat ∧ Text.decimalDigit? c = none := by
  cases value : Text.decimalDigit? c with
  | some value => exact Or.inl (isDigit_asciiDigit value)
  | none =>
      rw [asciiDigit_eq_self value]
      exact Or.inr ⟨Text.not_ascii_of_decimalDigit_eq_none digit value, rfl⟩

theorem asciiDigit_mark {c : Char} (mark : IsMark c) : asciiDigit c = c := by
  cases mark <;> rfl

theorem NumeralChar.asciiDigit_ne_underscore
    {c : Char} (allowed : NumeralChar c) : asciiDigit c ≠ '_' := by
  rcases allowed with digit | mark
  · intro same
    rcases asciiDigit_cases digit with ascii | ⟨beyond, _⟩
    · rw [same] at ascii
      cases ascii
    · rw [same] at beyond
      exact absurd beyond (by decide)
  · rw [asciiDigit_mark mark]
    rintro rfl
    cases mark

theorem trimWhere_eq_self
    {drop : Char → Bool} {text : List Char} (kept : ∀ c ∈ text, drop c = false) :
    Text.trimWhere drop text = text := by
  have dropsNothing (text : List Char) (kept : ∀ c ∈ text, drop c = false) :
      text.dropWhile drop = text := by
    cases text with
    | nil => rfl
    | cons c rest => rw [List.dropWhile_cons_of_neg (by simp [kept c List.mem_cons_self])]
  rw [Text.trimWhere, dropsNothing text kept, dropsNothing, List.reverse_reverse]
  intro c member
  exact kept c (List.mem_reverse.1 member)

theorem dropUnderscores_eq_self
    {text : List Char} (none : '_' ∉ text) (afterDigit : Bool) :
    dropUnderscores afterDigit text = some text := by
  induction text generalizing afterDigit with
  | nil => rfl
  | cons c rest later =>
      rw [List.mem_cons, not_or] at none
      rw [dropUnderscores]
      · rw [later none.2]
        rfl
      · rintro _ _ rfl
        exact absurd rfl none.1
      · rintro rfl
        exact absurd rfl none.1

theorem trimWhere_numeralChars
    {text : List Char} (allowed : ∀ c ∈ text, NumeralChar c) :
    Text.trimWhere isNumeralBlank text = text :=
  trimWhere_eq_self fun c member => (allowed c member).not_blank

theorem underscore_not_mem_asciiDigits
    {text : List Char} (allowed : ∀ c ∈ text, NumeralChar c) :
    '_' ∉ asciiDigits text := by
  rw [asciiDigits_eq_map, List.mem_map]
  rintro ⟨c, member, same⟩
  exact (allowed c member).asciiDigit_ne_underscore same

/-- A numeral does not start like a sign or a word when it starts with a digit or a point. -/
def StartsPlain (plain : List Char) : Prop :=
  ∃ c rest, plain = c :: rest ∧ (c.isDigit = true ∨ c = '.' ∨ 128 ≤ c.toNat)

theorem StartsPlain.splitSign
    {plain : List Char} (starts : StartsPlain plain) :
    splitSign plain = (false, plain) := by
  rcases starts with ⟨c, rest, rfl, kind⟩
  rw [Decimal.splitSign]
  · rintro _ ⟨⟩
    revert kind
    decide
  · rintro _ ⟨⟩
    revert kind
    decide

theorem startsPlain_asciiDigits
    {c : Char} (digit : Text.isDigit c = true) (rest : List Char) :
    StartsPlain (asciiDigits (c :: rest)) := by
  refine ⟨asciiDigit c, asciiDigits rest, rfl, ?_⟩
  rcases asciiDigit_cases digit with ascii | ⟨beyond, _⟩
  · exact Or.inl ascii
  · exact Or.inr (Or.inr beyond)

/-! ## Integers -/

theorem Digits.numeralChar {text : List Char} (digits : Digits text) : ∀ c ∈ text, NumeralChar c :=
  fun c member => Or.inl (digits c member)

theorem takeWhile_congr
    {p q : Char → Bool} {text : List Char} (same : ∀ c ∈ text, p c = q c) :
    text.takeWhile p = text.takeWhile q := by
  induction text with
  | nil => rfl
  | cons c rest later =>
      rw [List.forall_mem_cons] at same
      rw [List.takeWhile_cons, List.takeWhile_cons, same.1, later same.2]

/-- Reading digits as an integer goes up to the first one without a decimal value. -/
theorem readInteger_digits
    {text : List Char} (digits : Digits text) (nonempty : text ≠ []) :
    readInteger (String.ofList text) =
      let span := (asciiDigits text).takeWhile Char.isDigit
      if digitLimit < span.length then .tooLong span.length
      else if span.isEmpty || span.length < text.length then .invalid
      else .value (digitsValue 0 span) := by
  have noUnderscore := underscore_not_mem_asciiDigits digits.numeralChar
  have starts : StartsPlain (asciiDigits text) := by
    cases text with
    | nil => exact absurd rfl nonempty
    | cons c rest => exact startsPlain_asciiDigits (digits c List.mem_cons_self) rest
  have span :
      (asciiDigits text).takeWhile (fun c => c.isDigit || c == '_') =
        (asciiDigits text).takeWhile Char.isDigit := by
    apply takeWhile_congr
    intro c member
    have notUnderscore : (c == '_') = false :=
      beq_false_of_ne fun same => noUnderscore (same ▸ member)
    rw [notUnderscore, Bool.or_false]
  have joined :
      dropUnderscores false ((asciiDigits text).takeWhile Char.isDigit) =
        some ((asciiDigits text).takeWhile Char.isDigit) := by
    refine dropUnderscores_eq_self (fun member => ?_) false
    exact noUnderscore ((List.takeWhile_prefix _).subset member)
  rw [readInteger, String.toList_ofList, trimWhere_numeralChars digits.numeralChar,
    starts.splitSign]
  dsimp only
  rw [span, joined]
  dsimp only
  rw [asciiDigits_eq_map, List.length_map]
  rfl

theorem takeWhile_eq_self_iff
    {p : Char → Bool} {text : List Char} :
    text.takeWhile p = text ↔ ∀ c ∈ text, p c = true := by
  constructor
  · intro all c member
    rw [← all] at member
    exact List.all_eq_true.1 List.all_takeWhile c member
  · intro all
    have whole : (text ++ []).takeWhile p = text ++ [].takeWhile p :=
      List.takeWhile_append_of_pos all
    simpa using whole

/-- Every digit has a value exactly when all are ASCII digits once they are read. -/
theorem Digits.allDecimal_iff
    {text : List Char} (digits : Digits text) :
    AllDecimal text ↔ ∀ c ∈ asciiDigits text, c.isDigit = true := by
  rw [asciiDigits_eq_map, List.forall_mem_map]
  constructor
  · intro all c member
    rcases asciiDigit_cases (digits c member) with ascii | ⟨_, noValue⟩
    · exact ascii
    · exact absurd noValue (all c member (digits c member))
  · intro all c member digit noValue
    have ascii := all c member
    rw [asciiDigit_eq_self noValue, Text.isDigit_ascii_iff] at ascii
    have beyond := Text.not_ascii_of_decimalDigit_eq_none digit noValue
    omega

/-- Digits are read as an integer exactly when each has a decimal value and there are not too many.
-/
theorem readInteger_digits_iff
    {text : List Char} (digits : Digits text) (nonempty : text ≠ []) :
    (∃ n, readInteger (String.ofList text) = .value n) ↔
      AllDecimal text ∧ text.length ≤ digitLimit := by
  have sameLength : (asciiDigits text).length = text.length := by
    rw [asciiDigits_eq_map, List.length_map]
  have prefixOfAll := List.takeWhile_prefix (l := asciiDigits text) Char.isDigit
  have shorter := prefixOfAll.length_le
  rw [readInteger_digits digits nonempty, digits.allDecimal_iff, ← takeWhile_eq_self_iff]
  dsimp only
  constructor
  · rintro ⟨n, read⟩
    split at read
    · cases read
    · split at read
      · cases read
      · rename_i short whole
        rw [Bool.or_eq_true, decide_eq_true_iff, not_or] at whole
        have all := prefixOfAll.eq_of_length (by omega)
        rw [all] at short
        exact ⟨all, by omega⟩
  · rintro ⟨all, short⟩
    have notEmpty : asciiDigits text ≠ [] := by
      intro empty
      rw [empty] at sameLength
      exact nonempty (List.length_eq_zero_iff.1 sameLength.symm)
    rw [all, if_neg (by omega), if_neg]
    · exact ⟨_, rfl⟩
    · rw [Bool.or_eq_true, List.isEmpty_iff, decide_eq_true_iff, sameLength]
      rintro (empty | less)
      · exact notEmpty empty
      · exact Nat.lt_irrefl _ less

/-! ## Decimal numerals -/

/-- A character that a decimal numeral may have once its digits are ASCII digits. -/
def PlainChar (c : Char) : Prop := c.isDigit = true ∨ IsMark c

theorem PlainChar.ascii {c : Char} (plain : PlainChar c) : c.toNat < 128 := by
  rcases plain with digit | mark
  · rw [Text.isDigit_ascii_iff] at digit
    omega
  · cases mark <;> decide

/-- What is left after a sign has the characters that the sign does not have. -/
theorem forall_mem_of_splitSign
    {P : Char → Prop} (minus : P '-') (plus : P '+') {text : List Char}
    (rest : ∀ c ∈ (splitSign text).2, P c) :
    ∀ c ∈ text, P c := by
  unfold splitSign at rest
  split at rest
  · exact List.forall_mem_cons.2 ⟨minus, rest⟩
  · exact List.forall_mem_cons.2 ⟨plus, rest⟩
  · exact rest

theorem plainChar_of_readExponent?
    {text : List Char} {value : Int} (read : readExponent? text = some value) :
    ∀ c ∈ text, PlainChar c := by
  cases text with
  | nil => nofun
  | cons mark rest =>
      rw [readExponent?] at read
      dsimp only at read
      split at read
      · rename_i wellFormed
        rw [Bool.and_eq_true, Bool.and_eq_true, Bool.or_eq_true, beq_iff_eq,
          beq_iff_eq] at wellFormed
        rcases wellFormed with ⟨⟨isMark, _⟩, digits⟩
        refine List.forall_mem_cons.2 ⟨Or.inr ?_, ?_⟩
        · rcases isMark with rfl | rfl
          · exact .small
          · exact .capital
        · refine forall_mem_of_splitSign (Or.inr .minus) (Or.inr .plus) fun c member => ?_
          exact Or.inl (List.all_eq_true.1 digits c member)
      · cases read

theorem forall_mem_of_takeWhile_dropWhile
    {P : Char → Prop} {p : Char → Bool} (taken : ∀ c, p c = true → P c) {text : List Char}
    (dropped : ∀ c ∈ text.dropWhile p, P c) :
    ∀ c ∈ text, P c := by
  rw [← List.takeWhile_append_dropWhile (p := p) (l := text)]
  rw [List.forall_mem_append]
  exact ⟨fun c member => taken c (List.all_eq_true.1 List.all_takeWhile c member), dropped⟩

/-- Whatever is read as a decimal numeral has nothing but ASCII digits, the point, a mark and a
sign. -/
theorem plainChar_of_readUnsigned?
    {negative : Bool} {text : List Char} {value : Float}
    (read : readUnsigned? negative text = some value) :
    ∀ c ∈ text, PlainChar c := by
  have digit (c : Char) (isDigit : c.isDigit = true) : PlainChar c := Or.inl isDigit
  apply forall_mem_of_takeWhile_dropWhile digit
  unfold readUnsigned? at read
  dsimp only at read
  split at read
  · rename_i rest afterWhole
    rw [afterWhole]
    refine List.forall_mem_cons.2 ⟨Or.inr .point, ?_⟩
    apply forall_mem_of_takeWhile_dropWhile digit
    split at read
    · cases read
    · rcases Option.map_eq_some_iff.1 read with ⟨exponent, exponentRead, _⟩
      exact plainChar_of_readExponent? exponentRead
  · split at read
    · cases read
    · rcases Option.map_eq_some_iff.1 read with ⟨exponent, exponentRead, _⟩
      exact plainChar_of_readExponent? exponentRead

theorem AllDecimal.append_iff
    {text more : List Char} :
    AllDecimal (text ++ more) ↔ AllDecimal text ∧ AllDecimal more :=
  List.forall_mem_append

theorem asciiDigits_append (text more : List Char) :
    asciiDigits (text ++ more) = asciiDigits text ++ asciiDigits more := by
  rw [asciiDigits_eq_map, List.map_append]
  rfl

theorem asciiDigits_marks
    {marks : List Char} (all : ∀ c ∈ marks, IsMark c) :
    asciiDigits marks = marks := by
  rw [asciiDigits_eq_map, List.map_congr_left fun c member => asciiDigit_mark (all c member)]
  exact List.map_id' marks

/-- Digits end where the rest of a text does not start with one. -/
theorem span_digits_append
    {digits rest : List Char} (all : ∀ c ∈ digits, c.isDigit = true)
    (stops : ∀ c ∈ rest.head?, c.isDigit = false) :
    (digits ++ rest).takeWhile Char.isDigit = digits ∧
      (digits ++ rest).dropWhile Char.isDigit = rest := by
  rw [List.takeWhile_append_of_pos all, List.dropWhile_append_of_pos all]
  cases rest with
  | nil => exact ⟨List.append_nil digits, rfl⟩
  | cons c rest =>
      have notDigit : ¬c.isDigit = true := by simp [stops c rfl]
      rw [List.takeWhile_cons_of_neg notDigit, List.dropWhile_cons_of_neg notDigit,
        List.append_nil]
      exact ⟨rfl, rfl⟩

/-- An exponent whose digits have values is read. -/
theorem IsExponent.read
    {text : List Char} (shape : IsExponent text) (decimal : AllDecimal text) :
    ∃ value, readExponent? (asciiDigits text) = some value := by
  cases shape with
  | none => exact ⟨0, rfl⟩
  | @digits mark sign digits isMark isSign digitsOnly nonempty =>
      have digitsDecimal : AllDecimal digits := fun c member =>
        decimal c (List.mem_cons_of_mem mark (List.mem_append_right sign member))
      have ascii := digitsOnly.allDecimal_iff.1 digitsDecimal
      have shape : asciiDigits (mark :: (sign ++ digits)) =
          mark :: (sign ++ asciiDigits digits) := by
        rw [← List.cons_append, asciiDigits_append,
          asciiDigits_marks (isMark_of_mem_exponent isMark isSign), List.cons_append]
      have split : (splitSign (sign ++ asciiDigits digits)).2 = asciiDigits digits := by
        rcases isSign with rfl | rfl | rfl
        · rw [List.nil_append]
          cases digits with
          | nil => exact absurd rfl nonempty
          | cons c rest =>
              have starts := startsPlain_asciiDigits (digitsOnly c List.mem_cons_self) rest
              rw [starts.splitSign]
        · rfl
        · rfl
      have marked : (mark == 'e' || mark == 'E') = true := by
        rcases isMark with rfl | rfl <;> rfl
      have notEmpty : (asciiDigits digits).isEmpty = false := by
        rw [List.isEmpty_eq_false_iff]
        exact fun empty => nonempty (List.map_eq_nil_iff.1 empty)
      rw [shape, readExponent?]
      dsimp only
      rw [split, marked, notEmpty, List.all_eq_true.2 ascii]
      exact ⟨_, rfl⟩

theorem IsExponent.head_asciiDigits
    {text : List Char} (shape : IsExponent text) :
    ∀ c ∈ (asciiDigits text).head?, c = 'e' ∨ c = 'E' := by
  cases shape with
  | none => nofun
  | digits isMark _ _ _ =>
      intro c first
      rw [asciiDigits_eq_map, List.map_cons, List.head?_cons, Option.mem_some_iff] at first
      rcases isMark with rfl | rfl
      · exact Or.inl (first.symm.trans (asciiDigit_mark .small))
      · exact Or.inr (first.symm.trans (asciiDigit_mark .capital))

theorem IsExponent.stops
    {text : List Char} (shape : IsExponent text) :
    ∀ c ∈ (asciiDigits text).head?, c.isDigit = false := by
  intro c first
  rcases shape.head_asciiDigits c first with rfl | rfl <;> rfl

variable {whole point exponent : List Char}

/-- The exponent that a numeral writes. -/
def exponentValue (exponent : List Char) : Int := (readExponent? (asciiDigits exponent)).getD 0

/-- The digits that a numeral writes before and after its point, as a number. -/
def mantissaValue (whole point : List Char) : Nat := digitsValue 0 (asciiDigits (whole ++ point.tail))

theorem mantissaValue_eq (whole point : List Char) :
    mantissaValue whole point =
      digitsValue (digitsValue 0 (asciiDigits whole)) (asciiDigits point.tail) := by
  rw [mantissaValue, asciiDigits_append, digitsValue, List.foldl_append]
  rfl

/-- A decimal numeral whose digits have values is read as the number that it writes. -/
theorem Numeral.read
    (parts : Numeral whole point exponent) (decimal : AllDecimal (whole ++ point ++ exponent))
    (negative : Bool) :
    readUnsigned? negative (asciiDigits (whole ++ point ++ exponent)) =
      some (ofScientific negative (mantissaValue whole point)
        (exponentValue exponent - point.tail.length)) := by
  rcases parts with ⟨digits, isFraction, isExponent, nonempty⟩
  rw [AllDecimal.append_iff, AllDecimal.append_iff] at decimal
  rcases decimal with ⟨⟨wholeDecimal, pointDecimal⟩, exponentDecimal⟩
  have wholeAscii := digits.allDecimal_iff.1 wholeDecimal
  rcases isExponent.read exponentDecimal with ⟨value, exponentRead⟩
  rw [asciiDigits_append, asciiDigits_append, List.append_assoc, mantissaValue_eq, exponentValue,
    exponentRead]
  unfold readUnsigned?
  dsimp only
  cases isFraction with
  | none =>
      have wholeGiven : asciiDigits whole ≠ [] := by simpa [asciiDigits_eq_map] using nonempty
      rcases span_digits_append wholeAscii isExponent.stops with ⟨taken, dropped⟩
      rw [show asciiDigits [] = [] from rfl, List.nil_append, taken, dropped]
      split
      · rename_i rest startsWithPoint
        have first := isExponent.head_asciiDigits '.' (by rw [startsWithPoint]; rfl)
        exact absurd first (by decide)
      · rw [exponentRead, if_neg (by simp [wholeGiven])]
        rfl
  | @digits fraction fractionDigits fractionGiven =>
      have fractionDecimal : AllDecimal fraction := fun c member =>
        pointDecimal c (List.mem_cons_of_mem '.' member)
      have fractionAscii := fractionDigits.allDecimal_iff.1 fractionDecimal
      have pointFirst :
          asciiDigits ('.' :: fraction) ++ asciiDigits exponent =
            '.' :: (asciiDigits fraction ++ asciiDigits exponent) := by
        have marks : ∀ c ∈ ['.'], IsMark c := List.forall_mem_singleton.2 .point
        rw [← List.singleton_append, asciiDigits_append, asciiDigits_marks marks]
        exact List.append_assoc _ _ _
      have pointStops :
          ∀ c ∈ ('.' :: (asciiDigits fraction ++ asciiDigits exponent)).head?,
            c.isDigit = false := by
        rintro c ⟨⟩
        rfl
      rcases span_digits_append wholeAscii pointStops with ⟨taken, dropped⟩
      rcases span_digits_append fractionAscii isExponent.stops with ⟨fractionTaken, fractionDropped⟩
      have fractionLeft : asciiDigits fraction ≠ [] := by
        simpa [asciiDigits_eq_map] using fractionGiven
      have sameLength : (asciiDigits fraction).length = fraction.length := by
        rw [asciiDigits_eq_map, List.length_map]
      simp only [pointFirst, taken, dropped, fractionTaken, fractionDropped, exponentRead]
      rw [if_neg (by simp [fractionLeft]), sameLength]
      rfl

theorem toLower_eq_self {c : Char} (kind : c.isDigit = true ∨ c = '.' ∨ 128 ≤ c.toNat) :
    c.toLower = c := by
  rcases Text.toLower_cases c with ⟨lower, upper, _⟩ | ⟨_, same⟩
  · exfalso
    rcases kind with digit | rfl | beyond
    · rw [Text.isDigit_ascii_iff] at digit
      omega
    · exact absurd lower (by decide)
    · omega
  · exact same

/-- A text that starts like a numeral is no word for infinity or NaN. -/
theorem StartsPlain.not_word
    {plain : List Char} (starts : StartsPlain plain) (word : String) {letter : Char}
    (first : word.toList.head? = some letter) (isLetter : letter = 'i' ∨ letter = 'n') :
    (String.ofList (plain.map Char.toLower) == word) = false := by
  rcases starts with ⟨c, rest, rfl, kind⟩
  rw [beq_eq_false_iff_ne]
  rintro rfl
  rw [String.toList_ofList, List.map_cons, List.head?_cons, toLower_eq_self kind] at first
  rcases Option.some.inj first with rfl
  rcases isLetter with rfl | rfl <;> revert kind <;> decide

theorem IsFraction.numeralChar
    {text : List Char} (shape : IsFraction text) :
    ∀ c ∈ text, NumeralChar c := by
  cases shape with
  | none => nofun
  | digits digits _ => exact List.forall_mem_cons.2 ⟨Or.inr .point, digits.numeralChar⟩

theorem IsExponent.numeralChar
    {text : List Char} (shape : IsExponent text) :
    ∀ c ∈ text, NumeralChar c := by
  cases shape with
  | none => nofun
  | digits isMark isSign digits _ =>
      rw [← List.cons_append, List.forall_mem_append]
      refine ⟨fun c member => Or.inr ?_, digits.numeralChar⟩
      exact isMark_of_mem_exponent isMark isSign c member

theorem Numeral.numeralChar
    (parts : Numeral whole point exponent) :
    ∀ c ∈ whole ++ point ++ exponent, NumeralChar c := by
  rw [List.forall_mem_append, List.forall_mem_append]
  exact ⟨⟨parts.digits.numeralChar, parts.isFraction.numeralChar⟩, parts.isExponent.numeralChar⟩

theorem Numeral.startsPlain
    (parts : Numeral whole point exponent) :
    StartsPlain (asciiDigits (whole ++ point ++ exponent)) := by
  rcases parts with ⟨digits, isFraction, _, nonempty⟩
  cases whole with
  | cons c rest => exact startsPlain_asciiDigits (digits c List.mem_cons_self) _
  | nil =>
      cases isFraction with
      | none => simp at nonempty
      | digits _ _ =>
          have point : asciiDigit '.' = '.' := asciiDigit_mark .point
          exact ⟨_, _, rfl, Or.inr (Or.inl point)⟩

/-- A decimal numeral is read as an unsigned one, and as no word. -/
theorem Numeral.readFloat?_eq
    (parts : Numeral whole point exponent) :
    readFloat? (String.ofList (whole ++ point ++ exponent)) =
      readUnsigned? false (asciiDigits (whole ++ point ++ exponent)) := by
  have noUnderscore := underscore_not_mem_asciiDigits parts.numeralChar
  have starts := parts.startsPlain
  rw [readFloat?, String.toList_ofList, trimWhere_numeralChars parts.numeralChar,
    dropUnderscores_eq_self noUnderscore]
  dsimp only
  rw [starts.splitSign]
  dsimp only
  rw [starts.not_word "inf" rfl (Or.inl rfl), starts.not_word "infinity" rfl (Or.inl rfl),
    starts.not_word "nan" rfl (Or.inr rfl)]
  rfl

/-- A decimal numeral is read exactly when each of its digits has a decimal value. -/
theorem readFloat?_decimal_iff
    (parts : Numeral whole point exponent) :
    (∃ x, readFloat? (String.ofList (whole ++ point ++ exponent)) = some x) ↔
      AllDecimal (whole ++ point ++ exponent) := by
  rw [parts.readFloat?_eq]
  constructor
  · rintro ⟨x, isFloat⟩ c member digit noValue
    have plain : PlainChar (asciiDigit c) :=
      plainChar_of_readUnsigned? isFloat _ (List.mem_map_of_mem member)
    rw [asciiDigit_eq_self noValue] at plain
    have beyond := Text.not_ascii_of_decimalDigit_eq_none digit noValue
    exact absurd plain.ascii (Nat.not_lt.2 beyond)
  · intro decimal
    exact ⟨_, parts.read decimal false⟩

end RowPlan.Decimal
