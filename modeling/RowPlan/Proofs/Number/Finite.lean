import RowPlan.Value.Basic

/-!
# Finite results

A double is finite exactly when the exponent field of its bits is not full. Bits below the pattern of
the infinite double are kept as they are by the double that is made of them, so that rounding a
quotient never gives an infinite or undefined double, and neither does a change of sign. It follows that
every operation on numbers that has a result has a finite one. A value stands for a finite number or for
none.
-/

namespace RowPlan.Decimal

open Float.Model.UnpackedFloat
open Float.Model (Format)

/-- A double is finite exactly when its exponent field is not full. -/
theorem isFinite_iff (x : Float) :
    isFinite x = true ↔ (x.toBits.toNat >>> 52) % 2048 ≠ 2047 := by
  unfold isFinite parts
  dsimp only
  split
  · rename_i shape
    split at shape
    · split at shape <;> cases shape
    · rename_i notFull
      exact iff_of_true rfl notFull
  · rename_i shape
    split at shape
    · rename_i full
      exact iff_of_false Bool.false_ne_true fun notFull => notFull full
    · split at shape
      · exact absurd rfl (shape _ _ _)
      · exact absurd rfl (shape _ _ _)

theorem toNat_unpackExponent (bits : BitVec 64) :
    (@unpackExponent Format.binary64 bits).toNat = (bits.toNat >>> 52) % 2048 := by
  simp [unpackExponent]

theorem pack_finite
    (sign : Sign) (mantissa : Nat) (exponent : Int) (positive : 0 < mantissa) :
    pack Format.binary64 (.finite sign mantissa exponent positive) =
      if 2048 ≤ (exponent + 1023 + 52).toNat + 1 then packedInfinity Format.binary64 sign
      else if mantissa.log2 + 1 = 53 then
        packComponents Format.binary64 sign
          (BitVec.ofNat _ (exponent + 1023 + 52).toNat) (BitVec.ofNat _ mantissa)
      else packComponents Format.binary64 sign 0#_ (BitVec.ofNat _ mantissa) := rfl

theorem pack_zero (sign : Sign) :
    pack Format.binary64 (.zero sign) = packComponents Format.binary64 sign 0 0 := rfl

/-- Doubles taken apart whose exponent is below the largest one. -/
inductive Bounded : Float.Model.UnpackedFloat → Prop where
  | zero (sign : Sign) : Bounded (.zero sign)
  | finite {sign mantissa exponent positive} :
      (exponent + 1023 + 52).toNat < 2047 → Bounded (.finite sign mantissa exponent positive)

/-- A mantissa and an exponent below the largest one are put together without filling the exponent
field. -/
theorem Bounded.unpackExponent_pack
    {x : Float.Model.UnpackedFloat} (bounded : Bounded x) :
    @unpackExponent Format.binary64 (pack Format.binary64 x) ≠ (-1#_) := by
  cases bounded with
  | zero sign =>
      rw [pack_zero, unpackExponent_packComponents]
      decide
  | @finite sign mantissa exponent positive small =>
      rw [pack_finite, if_neg (by omega)]
      split
      · rw [unpackExponent_packComponents]
        intro full
        have fields := congrArg BitVec.toNat full
        rw [BitVec.toNat_ofNat, BitVec.toNat_neg] at fields
        have : (exponent + 1023 + 52).toNat % 2048 = 2047 := fields
        omega
      · rw [unpackExponent_packComponents]
        decide

/-- Bits whose exponent field is not full are taken apart into an exponent below the largest one. -/
theorem bounded_unpack
    (bits : BitVec 64)
    (notFull : @unpackExponent Format.binary64 bits ≠ (-1#_)) :
    Bounded (unpack Format.binary64 bits) := by
  have bias : (Format.binary64.exponentBias : Int) = 1023 := rfl
  unfold unpack
  dsimp only
  rw [if_neg notFull]
  by_cases zero : @unpackExponent Format.binary64 bits = 0#_
  · rw [if_pos zero]
    by_cases noMantissa : @unpackMantissa Format.binary64 bits = 0#_
    · rw [dif_pos noMantissa]
      exact .zero _
    · rw [dif_neg noMantissa]
      apply Bounded.finite
      rw [zero, bias]
      decide
  · rw [if_neg zero]
    apply Bounded.finite
    have below := (@unpackExponent Format.binary64 bits).isLt
    have notLargest : (@unpackExponent Format.binary64 bits).toNat ≠ 2047 := by
      intro largest
      apply notFull
      apply BitVec.eq_of_toNat_eq
      rw [largest]
      rfl
    rw [bias]
    have : (@unpackExponent Format.binary64 bits).toNat < 2048 := below
    have width : ((Format.binary64.mantissaBitsWithoutImplicit : Nat) : Int) = 52 := rfl
    omega

theorem Bounded.neg {x : Float.Model.UnpackedFloat} (bounded : Bounded x) : Bounded x.neg := by
  cases bounded with
  | zero sign => exact .zero _
  | finite small => exact .finite small

/-- Whether a double is finite can be read off its exponent field. -/
theorem isFinite_iff_unpackExponent (x : Float) :
    isFinite x = true ↔ @unpackExponent Format.binary64 x.toBits.toBitVec ≠ (-1#_) := by
  have field : (x.toBits.toNat >>> 52) % 2048 = 2047 ↔
      @unpackExponent Format.binary64 x.toBits.toBitVec = (-1#_) := by
    rw [← BitVec.toNat_inj, toNat_unpackExponent]
    exact Iff.rfl
  rw [isFinite_iff]
  exact not_congr field

/-- The opposite of a finite double is finite. -/
theorem isFinite_neg {x : Float} (finite : isFinite x = true) : isFinite (-x) = true := by
  rw [isFinite_iff_unpackExponent] at finite ⊢
  exact (bounded_unpack _ finite).neg.unpackExponent_pack

/-- Bits below the pattern of the infinite double make a finite double. -/
theorem isFinite_ofMagnitudeBits
    (negative : Bool) {bits : Nat} (below : bits < 2047 <<< 52) :
    isFinite (ofMagnitudeBits negative bits) = true := by
  rw [isFinite_iff_unpackExponent]
  refine (bounded_unpack (UInt64.ofNat _).toBitVec fun filled => ?_).unpackExponent_pack
  have fields := congrArg BitVec.toNat filled
  rw [toNat_unpackExponent] at fields
  change ((_ % 2 ^ 64) >>> 52) % 2048 = 2047 at fields
  split at fields <;> omega

theorem isFinite_of_nearest?
    {negative : Bool} {numerator denominator : Nat} {x : Float}
    (rounded : nearest? negative numerator denominator = some x) :
    isFinite x = true := by
  unfold nearest? at rounded
  dsimp only at rounded
  split at rounded
  · rename_i below
    cases rounded
    exact isFinite_ofMagnitudeBits negative below
  · cases rounded

end RowPlan.Decimal

namespace RowPlan.Number

/-! ## Operations on numbers -/

theorem isFinite_neg {a : Number} (finite : a.isFinite = true) : a.neg.isFinite = true := by
  cases a with
  | int n => rfl
  | float x => exact Decimal.isFinite_neg finite

theorem isFinite_of_finite?
    {a b : Number} (kept : a.finite? = some b) :
    b.isFinite = true := by
  rw [finite?] at kept
  split at kept
  · rename_i finite
    cases kept
    exact finite
  · cases kept

/-- An operation that is exact on integers and rounded otherwise has finite results only. -/
theorem isFinite_of_combine?
    {exact : Int → Int → Int} {rounded : Float → Float → Float} {a b c : Number}
    (result : combine? (fun m n => int (exact m n)) rounded a b = some c) :
    c.isFinite = true := by
  unfold combine? at result
  split at result
  · cases result
    rfl
  · split at result
    · exact isFinite_of_finite? result
    · cases result

theorem isFinite_of_div?
    {a b c : Number} (result : a.div? b = some c) :
    c.isFinite = true := by
  unfold div? at result
  split at result
  · cases result
  · split at result
    · rcases Option.map_eq_some_iff.1 result with ⟨x, quotient, rfl⟩
      exact Decimal.isFinite_of_nearest? quotient
    · split at result
      · exact isFinite_of_finite? result
      · cases result

theorem isFinite_of_mod?
    {a b c : Number} (result : a.mod? b = some c) :
    c.isFinite = true := by
  rw [mod?] at result
  split at result
  · cases result
  · exact isFinite_of_combine? result

end RowPlan.Number

namespace RowPlan.Value

/-- A number that a value stands for is finite. -/
theorem isFinite_of_toNumber?
    {value : Value} {number : Number} (stands : value.toNumber? = some number) :
    number.isFinite = true := by
  cases value with
  | num n => exact Number.isFinite_of_finite? stands
  | str s =>
      rw [toNumber?, numberOfText?] at stands
      split at stands
      · cases stands
      · split at stands
        · cases stands
          rfl
        · rcases Option.bind_eq_some_iff.1 stands with ⟨x, _, kept⟩
          exact Number.isFinite_of_finite? kept
  | _ => cases stands

end RowPlan.Value
