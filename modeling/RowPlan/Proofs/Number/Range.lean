import Mathlib.Algebra.Order.Field.Power
import Mathlib.Tactic.GCongr
import Mathlib.Tactic.NormNum
import RowPlan.Proofs.Number.Finite
import RowPlan.Proofs.Number.Numeral

/-!
# The range of the doubles

The largest double is `2 ^ 1024 - 2 ^ 971`, one step of its mantissa below `2 ^ 1024`. What lies less
than half a step above it is rounded to it; the tie goes to the even mantissa, which is the one out of
range. So a quotient has a nearest double exactly when it is below `2 ^ 1024 - 2 ^ 970`.

A decimal numeral is read as infinite from there on. Numerals with exponents far out are settled by
their number of digits, and the same bound tells which of them are infinite.
-/

namespace RowPlan.Decimal

/-- Where the range of the doubles ends: halfway between the largest double and `2 ^ 1024`. -/
def rangeEnd : Nat := 2 ^ 1024 - 2 ^ 970

theorem rangeEnd_eq : rangeEnd = (2 ^ 54 - 1) * 2 ^ 970 := by decide +kernel

/-! ## Rounding -/

/-- A quotient is rounded up to an even number from the tie below it on. -/
theorem le_roundDiv_iff
    {denominator bound : Nat} (positive : 0 < denominator) (even : bound % 2 = 0) (numerator : Nat) :
    bound ≤ roundDiv numerator denominator ↔ (2 * bound - 1) * denominator ≤ 2 * numerator := by
  have doubled :
      2 * numerator / denominator =
        2 * (numerator / denominator) + 2 * (numerator % denominator) / denominator := by
    rw [← Nat.mul_add_div positive]
    congr 1
    have := Nat.div_add_mod numerator denominator
    grind
  have remainder := Nat.mod_lt numerator positive
  rw [← Nat.le_div_iff_mul_le positive, doubled, roundDiv]
  split
  · rename_i below
    rw [Nat.div_eq_of_lt below]
    omega
  · rename_i notBelow
    have one : 2 * (numerator % denominator) / denominator = 1 :=
      Nat.div_eq_of_lt_le (by omega) (by omega)
    rw [one]
    split <;> omega

/-- The power of two by which a quotient is scaled down so that its mantissa has 53 bits. -/
def mantissaShift (numerator denominator : Nat) : Nat := (numerator / denominator).log2 + 1 - 53

section Mantissa

variable {denominator : Nat} (positive : 0 < denominator) (numerator : Nat)

include positive

theorem lt_mantissa_bound :
    numerator < 2 ^ 53 * (denominator * 2 ^ mantissaShift numerator denominator) := by
  have quotient : numerator / denominator < 2 ^ (53 + mantissaShift numerator denominator) := by
    refine Nat.lt_of_lt_of_le Nat.lt_log2_self (Nat.pow_le_pow_right (by decide) ?_)
    rw [mantissaShift]
    omega
  rw [Nat.div_lt_iff_lt_mul positive] at quotient
  rwa [Nat.mul_comm denominator, ← Nat.mul_assoc, ← Nat.pow_add]

theorem mantissa_bound_le (shifted : 0 < mantissaShift numerator denominator) :
    2 ^ 52 * (denominator * 2 ^ mantissaShift numerator denominator) ≤ numerator := by
  rw [mantissaShift] at shifted
  have some : numerator / denominator ≠ 0 := by
    intro none
    rw [none] at shifted
    exact absurd shifted (by decide)
  have quotient : 2 ^ (52 + mantissaShift numerator denominator) ≤ numerator / denominator := by
    refine Nat.le_trans (Nat.pow_le_pow_right (by decide) ?_) (Nat.log2_self_le some)
    rw [mantissaShift]
    omega
  rw [Nat.le_div_iff_mul_le positive] at quotient
  rwa [Nat.mul_comm denominator, ← Nat.mul_assoc, ← Nat.pow_add]

/-- The bits count up to a power of two from the tie below it on. -/
theorem le_nearestBits_iff (exponent : Nat) :
    (exponent + 3) <<< 52 ≤ nearestBits numerator denominator ↔
      (2 ^ 54 - 1) * (denominator * 2 ^ exponent) ≤ numerator := by
  have below := lt_mantissa_bound positive numerator
  have above := mantissa_bound_le positive numerator
  rw [nearestBits]
  change (exponent + 3) <<< 52 ≤ (mantissaShift numerator denominator <<< 52) +
    roundDiv numerator (denominator <<< mantissaShift numerator denominator) ↔ _
  rw [Nat.shiftLeft_eq denominator]
  generalize mantissaShift numerator denominator = shift at below above ⊢
  have scaled : 0 < denominator * 2 ^ shift := Nat.mul_pos positive (Nat.two_pow_pos shift)
  have up (bound : Nat) (even : bound % 2 = 0) := le_roundDiv_iff scaled even numerator
  have power {small large : Nat} (le : small ≤ large) :
      denominator * 2 ^ small ≤ denominator * 2 ^ large :=
    Nat.mul_le_mul_left _ (Nat.pow_le_pow_right (by decide) le)
  have double (exponent : Nat) :
      denominator * 2 ^ (exponent + 1) = 2 * (denominator * 2 ^ exponent) := by
    rw [Nat.pow_succ, ← Nat.mul_assoc, Nat.mul_comm]
  -- A mantissa of 53 bits reaches the power of two by being rounded up, or it is beyond it by its shift.
  rcases Nat.lt_trichotomy shift (exponent + 1) with less | rfl | more
  · have small := power (Nat.le_of_lt_succ less)
    have notUp := up (2 ^ 53 + 2) (by decide)
    generalize denominator * 2 ^ shift = step at *
    generalize denominator * 2 ^ exponent = unit at *
    omega
  · have tie := up (2 ^ 53) (by decide)
    rw [double] at below above tie ⊢
    generalize denominator * 2 ^ exponent = unit at *
    omega
  · have large := power more
    have up := up (2 ^ 52) (by decide)
    rw [double, double] at large
    generalize denominator * 2 ^ shift = step at *
    generalize denominator * 2 ^ exponent = unit at *
    omega

/-- The same of a quotient that is counted in smaller units. -/
theorem le_nearestBits_shiftLeft_iff (exponent scale : Nat) :
    (exponent + scale + 3) <<< 52 ≤ nearestBits (numerator <<< scale) denominator ↔
      (2 ^ 54 - 1) * 2 ^ exponent * denominator ≤ numerator := by
  have scaled :
      (2 ^ 54 - 1) * (denominator * 2 ^ (exponent + scale)) =
        (2 ^ 54 - 1) * 2 ^ exponent * denominator * 2 ^ scale := by
    rw [Nat.pow_add]
    ac_rfl
  rw [le_nearestBits_iff positive, Nat.shiftLeft_eq, scaled]
  exact Nat.mul_le_mul_right_iff (Nat.two_pow_pos scale)

/-- A quotient has no nearest double exactly when it is beyond the range of the doubles. -/
theorem nearest?_eq_none_iff (negative : Bool) :
    nearest? negative numerator denominator = none ↔ rangeEnd * denominator ≤ numerator := by
  have bits := le_nearestBits_shiftLeft_iff positive numerator 970 1074
  rw [← rangeEnd_eq] at bits
  rw [nearest?]
  split
  · rename_i below
    exact iff_of_false nofun fun beyond => absurd (bits.2 beyond) (Nat.not_le.2 below)
  · rename_i beyond
    exact iff_of_true rfl (bits.1 (Nat.le_of_not_lt beyond))

end Mantissa

/-! ## Decimal numerals -/

theorem rangeEnd_le : rangeEnd ≤ 10 ^ 309 := by decide +kernel

theorem toDigits_bounds {n : Nat} (some : n ≠ 0) :
    10 ^ ((Nat.toDigits 10 n).length - 1) ≤ n ∧ n < 10 ^ (Nat.toDigits 10 n).length := by
  have length {bound : Nat} (given : 0 < bound) :
      (Nat.toDigits 10 n).length ≤ bound ↔ n < 10 ^ bound :=
    Nat.length_toDigits_le_iff (by decide) given
  have nonempty : 0 < (Nat.toDigits 10 n).length := Nat.length_toDigits_pos
  constructor
  · by_cases single : (Nat.toDigits 10 n).length - 1 = 0
    · rw [single]
      exact Nat.pos_of_ne_zero some
    · by_contra less
      have shorter := (length (Nat.pos_of_ne_zero single)).2 (Nat.lt_of_not_le less)
      omega
  · exact (length nonempty).1 (Nat.le_refl _)

/-- The number of digits and the exponent tell between which powers of ten a number lies. -/
theorem scientific_bounds {digits : Nat} (some : digits ≠ 0) (exponent : Int) :
    (10 : ℚ) ^ ((Nat.toDigits 10 digits).length + exponent - 1) ≤ digits * 10 ^ exponent ∧
      (digits : ℚ) * 10 ^ exponent < 10 ^ ((Nat.toDigits 10 digits).length + exponent) := by
  have nonempty : 0 < (Nat.toDigits 10 digits).length := Nat.length_toDigits_pos
  rcases toDigits_bounds some with ⟨atLeast, less⟩
  generalize (Nat.toDigits 10 digits).length = length at *
  have power : 0 < (10 : ℚ) ^ exponent := zpow_pos (by norm_num) exponent
  constructor
  · calc
      (10 : ℚ) ^ (length + exponent - 1) = 10 ^ (length - 1) * 10 ^ exponent := by
        rw [← zpow_natCast, ← zpow_add₀ (by norm_num)]
        congr 1
        omega
      _ ≤ digits * 10 ^ exponent := by
        gcongr
        exact_mod_cast atLeast
  · calc
      (digits : ℚ) * 10 ^ exponent < 10 ^ length * 10 ^ exponent := by
        gcongr
        exact_mod_cast less
      _ = 10 ^ (length + exponent) := by rw [← zpow_natCast, ← zpow_add₀ (by norm_num)]

/-- The double nearest to a decimal number, which is a quotient of natural numbers. -/
def nearestScientific? (negative : Bool) (digits : Nat) (exponent : Int) : Option Float :=
  if exponent < 0 then nearest? negative digits (Nat.pow 10 exponent.natAbs)
  else nearest? negative (digits * Nat.pow 10 exponent.natAbs) 1

theorem nearestScientific?_eq_none_iff (negative : Bool) (digits : Nat) (exponent : Int) :
    nearestScientific? negative digits exponent = none ↔
      (rangeEnd : ℚ) ≤ digits * 10 ^ exponent := by
  have power : 0 < 10 ^ exponent.natAbs := Nat.pow_pos (by decide)
  rw [nearestScientific?]
  split
  · rename_i isNegative
    have inverse : (10 : ℚ) ^ exponent = ((10 ^ exponent.natAbs : Nat) : ℚ)⁻¹ := by
      rw [Nat.cast_pow, ← zpow_natCast, ← zpow_neg]
      congr 1
      omega
    rw [inverse, ← div_eq_mul_inv, le_div_iff₀ (by exact_mod_cast power)]
    exact_mod_cast nearest?_eq_none_iff power digits negative
  · rename_i notNegative
    have direct : (10 : ℚ) ^ exponent = ((10 ^ exponent.natAbs : Nat) : ℚ) := by
      rw [Nat.cast_pow, ← zpow_natCast]
      congr 1
      omega
    have exactly := nearest?_eq_none_iff Nat.one_pos (digits * 10 ^ exponent.natAbs) negative
    rw [Nat.mul_one] at exactly
    rw [direct]
    exact_mod_cast exactly

theorem isFinite_of_nearestScientific?
    {negative : Bool} {digits : Nat} {exponent : Int} {x : Float}
    (rounded : nearestScientific? negative digits exponent = some x) :
    isFinite x = true := by
  rw [nearestScientific?] at rounded
  split at rounded
  · exact isFinite_of_nearest? rounded
  · exact isFinite_of_nearest? rounded

theorem isFinite_infinity (negative : Bool) : isFinite (infinity negative) = false := by
  cases negative <;> decide +kernel

theorem isFinite_zero (negative : Bool) : isFinite (zero negative) = true := by
  cases negative <;> decide +kernel

/-- A decimal number has a finite double in the range of the doubles, and an infinite one beyond it. -/
theorem ofScientific_cases (negative : Bool) (digits : Nat) (exponent : Int) :
    ((digits : ℚ) * 10 ^ exponent < rangeEnd ∧
        isFinite (ofScientific negative digits exponent) = true) ∨
      ((rangeEnd : ℚ) ≤ digits * 10 ^ exponent ∧
        ofScientific negative digits exponent = infinity negative) := by
  have positive : (0 : ℚ) < rangeEnd := by exact_mod_cast (by decide +kernel : 0 < rangeEnd)
  rw [ofScientific]
  dsimp only
  split
  · rename_i small
    refine .inl ⟨?_, isFinite_zero negative⟩
    rw [Bool.or_eq_true, decide_eq_true_iff, decide_eq_true_iff] at small
    by_cases none : digits = 0
    · rw [none, Nat.cast_zero, zero_mul]
      exact positive
    · have short := small.resolve_left none
      calc
        (digits : ℚ) * 10 ^ exponent < 10 ^ ((Nat.toDigits 10 digits).length + exponent) :=
          (scientific_bounds none exponent).2
        _ ≤ 10 ^ (0 : Int) := zpow_le_zpow_right₀ (by norm_num) (by omega)
        _ ≤ rangeEnd := by exact_mod_cast (by decide +kernel : 1 ≤ rangeEnd)
  · rename_i notSmall
    split
    · rename_i long
      refine .inr ⟨?_, rfl⟩
      have some : digits ≠ 0 := by
        rintro rfl
        exact notSmall rfl
      calc
        (rangeEnd : ℚ) ≤ 10 ^ (309 : Int) := by exact_mod_cast rangeEnd_le
        _ ≤ 10 ^ ((Nat.toDigits 10 digits).length + exponent - 1) :=
          zpow_le_zpow_right₀ (by norm_num) (by omega)
        _ ≤ digits * 10 ^ exponent := (scientific_bounds some exponent).1
    · change _ ∧ isFinite ((nearestScientific? negative digits exponent).getD (infinity negative)) = _ ∨
        _ ∧ (nearestScientific? negative digits exponent).getD (infinity negative) = _
      have beyond := nearestScientific?_eq_none_iff negative digits exponent
      cases rounded : nearestScientific? negative digits exponent with
      | none => exact .inr ⟨beyond.1 rounded, rfl⟩
      | some x =>
          refine .inl ⟨lt_of_not_ge fun out => ?_, isFinite_of_nearestScientific? rounded⟩
          cases rounded.symm.trans (beyond.2 out)

/-- The number that a numeral writes. -/
def numeralValue (whole point exponent : List Char) : ℚ :=
  mantissaValue whole point * 10 ^ (exponentValue exponent - point.tail.length)

/-- A decimal numeral that is read is read as a finite double in the range of the doubles, and as infinite
beyond it. -/
theorem Numeral.readFloat?_cases
    {whole point exponent : List Char} (parts : Numeral whole point exponent) {x : Float}
    (read : readFloat? (String.ofList (whole ++ point ++ exponent)) = some x) :
    (numeralValue whole point exponent < rangeEnd ∧ isFinite x = true) ∨
      ((rangeEnd : ℚ) ≤ numeralValue whole point exponent ∧ x = infinity false) := by
  have decimal := (readFloat?_decimal_iff parts).1 ⟨x, read⟩
  rw [parts.readFloat?_eq, parts.read decimal] at read
  cases read
  exact ofScientific_cases false _ _

end RowPlan.Decimal
