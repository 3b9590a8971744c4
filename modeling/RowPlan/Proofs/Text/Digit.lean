import RowPlan.Decimal.Numeral

/-!
# Digits

There are more digits than those with a decimal value: superscripts and enclosed digits have none. A
digit with a decimal value is read as the ASCII digit of that value; one without is left as it is,
and lies beyond ASCII. No digit is a blank.
-/

namespace RowPlan.Text

theorem hexWords_ofList (text : List Char) :
    hexWords (String.ofList text) = hexWordsFrom none text := by
  rw [hexWords, String.toList_ofList]

/-- No blank of a table is a digit of another one. -/
def BlanksApart (blanks digits : List Nat) : Prop :=
  ∀ code ∈ blanks, inRuns digits (code - 128) = false

instance (blanks digits : List Nat) : Decidable (BlanksApart blanks digits) :=
  inferInstanceAs (Decidable (∀ _ ∈ _, _))

set_option maxRecDepth 100000 in
theorem blanksApart_digitRuns : BlanksApart wideBlanks digitRuns := by
  -- The characters of the tables are taken out of their texts before anything is evaluated.
  have blanks : wideBlanks = _ := hexWords_ofList _
  have digits : digitRuns = _ := hexWords_ofList _
  rw [blanks, digits]
  decide +kernel

theorem isDigit_ascii_iff (c : Char) : c.isDigit = true ↔ 48 ≤ c.toNat ∧ c.toNat ≤ 57 := by
  rw [Char.isDigit, Bool.and_eq_true, decide_eq_true_iff, decide_eq_true_iff, ge_iff_le,
    UInt32.le_iff_toNat_le, UInt32.le_iff_toNat_le]
  exact Iff.rfl

/-- No digit is a blank. -/
theorem isBlank_of_isDigit {c : Char} (digit : isDigit c = true) : isBlank c = false := by
  rw [isDigit] at digit
  rw [isBlank]
  split at digit
  · rename_i ascii
    rw [if_pos ascii]
    rw [isDigit_ascii_iff] at digit
    have notSpace : c ≠ ' ' := by
      rintro rfl
      exact absurd digit.1 (by decide)
    simp only [notSpace, beq_eq_false_iff_ne.2, ne_eq, not_false_eq_true, Bool.false_or,
      Bool.or_eq_false_iff, Bool.and_eq_false_iff, decide_eq_false_iff_not]
    omega
  · rename_i beyond
    rw [if_neg beyond]
    cases blank : wideBlanks.contains c.toNat with
    | false => rfl
    | true =>
        rw [List.contains_iff_mem] at blank
        cases digit.symm.trans (blanksApart_digitRuns _ blank)

/-- A digit without a decimal value lies beyond ASCII. -/
theorem not_ascii_of_decimalDigit_eq_none
    {c : Char} (digit : isDigit c = true) (noValue : decimalDigit? c = none) :
    128 ≤ c.toNat := by
  rw [isDigit] at digit
  rw [decimalDigit?] at noValue
  by_cases ascii : isAscii c = true
  · rw [if_pos ascii] at digit
    rw [if_pos ascii, if_pos digit] at noValue
    cases noValue
  · rw [isAscii, decide_eq_true_iff] at ascii
    omega

theorem decimalDigit_lt_ten
    {c : Char} {value : Nat} (decimal : decimalDigit? c = some value) :
    value < 10 := by
  rw [decimalDigit?] at decimal
  split at decimal
  · split at decimal
    · rename_i digit
      cases decimal
      rw [isDigit_ascii_iff] at digit
      have zero : '0'.toNat = 48 := rfl
      omega
    · cases decimal
  · rcases Option.map_eq_some_iff.1 decimal with ⟨start, found, rfl⟩
    have near := List.find?_some found
    rw [Bool.and_eq_true, decide_eq_true_iff, decide_eq_true_iff] at near
    omega

end RowPlan.Text

namespace RowPlan.Decimal

/-- One decimal digit of any script written as an ASCII digit. -/
def asciiDigit (c : Char) : Char :=
  match Text.decimalDigit? c with
  | some value => Char.ofNat ('0'.toNat + value)
  | none => c

theorem isDigit_asciiDigit
    {c : Char} {value : Nat} (decimal : Text.decimalDigit? c = some value) :
    (asciiDigit c).isDigit = true := by
  have digits : ∀ value < 10, (Char.ofNat ('0'.toNat + value)).isDigit = true := by decide
  rw [asciiDigit, decimal]
  exact digits value (Text.decimalDigit_lt_ten decimal)

theorem asciiDigit_eq_self
    {c : Char} (noValue : Text.decimalDigit? c = none) :
    asciiDigit c = c := by
  rw [asciiDigit, noValue]

theorem asciiDigits_eq_map (text : List Char) : asciiDigits text = text.map asciiDigit := rfl

end RowPlan.Decimal
