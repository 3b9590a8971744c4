import RowPlan.Proofs.Number.Range
import RowPlan.Proofs.Outcome
import RowPlan.Proofs.Value.Hereditary
import RowPlan.Value.Display

/-!
# Values that can be written

An integer can be written if it has at most `digitLimit` digits, and a value if all integers in it can.
Whatever turns a value into text, be it for a message, as JSON, in a cell or to look it up, succeeds exactly
then, and otherwise fails in the one way in which a text can be missing.
-/

namespace RowPlan

open Outcome (FailsFor Succeeds)

/-- There is only one way in which a text can be missing. -/
instance : Unique TextError := ⟨⟨.tooManyDigits⟩, fun error => by cases error; rfl⟩

/-- A text is missing in this way if there is a cause, as soon as it is there if and only if there is none. -/
theorem TextError.failsFor
    {α : Type} {outcome : Except TextError α} {cause : Prop} (succeeds : Succeeds outcome ↔ ¬ cause) :
    FailsFor outcome .tooManyDigits cause := by
  intro error
  cases outcome with
  | ok result => simp [succeeds.1 (Outcome.succeeds_ok result)]
  | error found =>
      have holds : cause := not_not.1 (succeeds.not.1 (Outcome.not_succeeds_error found))
      simp [holds]

/-- Two outcomes that can only fail for want of a text are the same if they have the same results. -/
theorem TextError.outcome_ext
    {α : Type} {first second : Except TextError α}
    (same : ∀ result, first = .ok result ↔ second = .ok result) :
    first = second := by
  cases first with
  | ok result => exact ((same result).1 rfl).symm
  | error error =>
      cases second with
      | ok result => exact (same result).2 rfl
      | error other => exact congrArg Except.error (Subsingleton.elim error other)

/-! ## Numbers -/

/-- Integers that have no more digits than can be written. -/
def Decimal.Writable (n : Int) : Prop := (Nat.toDigits 10 n.natAbs).length ≤ digitLimit

namespace Decimal

instance (n : Int) : Decidable (Writable n) := inferInstanceAs (Decidable (_ ≤ _))

theorem writable_iff_lt (n : Int) : Writable n ↔ n.natAbs < 10 ^ digitLimit :=
  Nat.length_toDigits_le_iff (by decide) (by decide)

theorem not_writable_pow {exponent : Nat} (large : digitLimit ≤ exponent) :
    ¬ Writable (10 ^ exponent : Nat) := by
  rw [writable_iff_lt, Int.natAbs_natCast, not_lt]
  exact Nat.pow_le_pow_right (by decide) large

theorem not_writable_square {exponent : Nat} (large : digitLimit ≤ exponent + exponent) :
    ¬ Writable (10 ^ exponent * 10 ^ exponent : Nat) := by
  rw [← Nat.pow_add]
  exact not_writable_pow large

theorem writeInteger_eq_ok {n : Int} (writable : Writable n) : writeInteger n = .ok (toString n) := by
  rw [writeInteger, if_neg (Nat.not_lt.2 writable)]

theorem writeInteger_eq_error {n : Int} (beyond : ¬ Writable n) :
    writeInteger n = .error .tooManyDigits := by
  rw [writeInteger, if_pos (Nat.lt_of_not_le beyond)]

theorem succeeds_writeInteger_iff {n : Int} : Succeeds (writeInteger n) ↔ Writable n := by
  by_cases writable : Writable n
  · simp [writeInteger_eq_ok writable, writable]
  · simp [writeInteger_eq_error writable, writable]

theorem digitsValue_lt
    {digits : List Char} (each : ∀ c ∈ digits, c.isDigit = true) (value : Nat) :
    digitsValue value digits < (value + 1) * 10 ^ digits.length := by
  induction digits generalizing value with
  | nil => simp [digitsValue]
  | cons c rest later =>
      rw [List.forall_mem_cons] at each
      have digit : c.toNat - 48 ≤ 9 := by
        have bounds := (Text.isDigit_ascii_iff c).1 each.1
        omega
      calc
        digitsValue value (c :: rest) = digitsValue (value * 10 + (c.toNat - 48)) rest := rfl
        _ < (value * 10 + (c.toNat - 48) + 1) * 10 ^ rest.length := later each.2 _
        _ ≤ ((value + 1) * 10) * 10 ^ rest.length := Nat.mul_le_mul_right _ (by omega)
        _ = (value + 1) * 10 ^ (c :: rest).length := by rw [List.length_cons, Nat.pow_succ', Nat.mul_assoc]

/-- An integer that is written with digits that are not too many can be written again. -/
theorem writable_digitsValue
    {digits : List Char} (each : ∀ c ∈ digits, c.isDigit = true) (short : digits.length ≤ digitLimit)
    (negative : Bool) :
    Writable (if negative then -(digitsValue 0 digits : Int) else digitsValue 0 digits) := by
  have magnitude :
      (if negative then -(digitsValue 0 digits : Int) else digitsValue 0 digits).natAbs =
        digitsValue 0 digits := by
    cases negative <;> simp
  rw [writable_iff_lt, magnitude]
  calc
    digitsValue 0 digits < (0 + 1) * 10 ^ digits.length := digitsValue_lt each 0
    _ = 10 ^ digits.length := by rw [Nat.zero_add, Nat.one_mul]
    _ ≤ 10 ^ digitLimit := Nat.pow_le_pow_right (by decide) short

theorem isDigit_of_dropUnderscores
    {afterDigit : Bool} {text digits : List Char} (dropped : dropUnderscores afterDigit text = some digits)
    (each : ∀ c ∈ text, (c.isDigit || c == '_') = true) :
    ∀ c ∈ digits, c.isDigit = true := by
  fun_induction dropUnderscores generalizing digits with
  | case1 =>
      cases dropped
      nofun
  | case2 _ c rest digit later =>
      rcases Option.map_eq_some_iff.1 dropped with ⟨others, restDropped, rfl⟩
      rw [List.forall_mem_cons, List.forall_mem_cons] at each
      exact List.forall_mem_cons.2 ⟨(Bool.and_eq_true _ _ ▸ digit).2, later restDropped each.2.2⟩
  | case3 => cases dropped
  | case4 => cases dropped
  | case5 _ c rest notMark notLast later =>
      rcases Option.map_eq_some_iff.1 dropped with ⟨others, restDropped, rfl⟩
      rw [List.forall_mem_cons] at each
      -- A mark would have been taken with what comes after it.
      have isDigit : c.isDigit = true := by
        refine (Bool.or_eq_true _ _ ▸ each.1).resolve_right fun mark => ?_
        cases rest with
        | nil => exact notLast (eq_of_beq mark) rfl
        | cons next more => exact notMark next more (eq_of_beq mark) rfl
      exact List.forall_mem_cons.2 ⟨isDigit, later restDropped each.2⟩

/-- Every integer that is read can be written. -/
theorem writable_of_integer {text : String} {n : Int} (read : integer text = .ok n) : Writable n := by
  rw [integer, readInteger] at read
  generalize splitSign (asciiDigits (Text.trimWhere isNumeralBlank text.toList)) = parts at read
  rcases parts with ⟨negative, body⟩
  dsimp only at read
  cases dropped : dropUnderscores false (body.takeWhile fun c => c.isDigit || c == '_') with
  | none =>
      rw [dropped] at read
      cases read
  | some digits =>
      have each := isDigit_of_dropUnderscores dropped (List.all_eq_true.1 List.all_takeWhile)
      rw [dropped] at read
      dsimp only at read
      by_cases long : digitLimit < digits.length
      · rw [if_pos long] at read
        cases read
      · rw [if_neg long] at read
        split at read
        · rename_i value isValue
          split at isValue
          · cases isValue
          · cases isValue
            cases read
            exact writable_digitsValue each (Nat.not_lt.1 long) negative
        · cases read
        · cases read

/-- The units of a double are far fewer than what can be written. -/
theorem natAbs_lt_of_units? {x : Float} {units : Int} (counted : units? x = some units) :
    units.natAbs < 10 ^ digitLimit := by
  have small (mantissa shift : Nat) (bits : mantissa < 2 ^ 53) (few : shift ≤ 2046) :
      mantissa <<< shift < 10 ^ digitLimit :=
    calc mantissa <<< shift
        = mantissa * 2 ^ shift := Nat.shiftLeft_eq _ _
      _ < 2 ^ 53 * 2 ^ shift := Nat.mul_lt_mul_of_pos_right bits (Nat.two_pow_pos shift)
      _ = 2 ^ (53 + shift) := (Nat.pow_add 2 53 shift).symm
      _ ≤ 10 ^ (53 + shift) := Nat.pow_le_pow_left (by decide) _
      _ ≤ 10 ^ digitLimit := Nat.pow_le_pow_right (by decide) (by rw [digitLimit]; omega)
  have signed (negative : Bool) (magnitude : Nat) :
      (if negative then -(magnitude : Int) else magnitude).natAbs = magnitude := by
    cases negative <;> simp
  simp only [units?, parts] at counted
  generalize x.toBits.toNat = bits at counted
  have fraction : bits % (1 <<< 52) < 2 ^ 52 := Nat.mod_lt _ (by decide)
  have exponent : (bits >>> 52) % 2048 < 2048 := Nat.mod_lt _ (by decide)
  split at counted
  · rename_i finite
    rw [← Option.some.inj counted]
    split at finite
    · split at finite <;> cases finite
    · split at finite
      · cases finite
        exact (signed _ _).trans_lt (small _ _ (by omega) (by decide))
      · cases finite
        exact (signed _ _).trans_lt (small _ _ (by omega) (by omega))
  · cases counted

/-- The whole part of a double can be written. -/
theorem writable_of_units? {x : Float} {units : Int} (counted : units? x = some units) :
    Writable (units / unitsPerOne) :=
  (writable_iff_lt _).2
    ((Int.natAbs_ediv_le_natAbs _ _).trans_lt (natAbs_lt_of_units? counted))

end Decimal

namespace Number

/-- Numbers that can be written: doubles always can. -/
def Writable : Number → Prop
  | int n => Decimal.Writable n
  | float _ => True

theorem succeeds_text_iff {a : Number} : Succeeds a.text ↔ a.Writable := by
  cases a with
  | int n => exact Decimal.succeeds_writeInteger_iff
  | float x => exact iff_of_true (Outcome.succeeds_ok _) trivial

end Number

/-! ## Values -/

/-- Values in which every integer can be written. -/
inductive Value.Writable : Value → Prop where
  | null : Writable .null
  | bool (b : Bool) : Writable (.bool b)
  | num {n : Number} : n.Writable → Writable (.num n)
  | str (s : String) : Writable (.str s)
  | arr {items} : (∀ item ∈ items, Writable item) → Writable (.arr items)
  | obj {members} : (∀ member ∈ members, Writable member.2) → Writable (.obj members)

/-- Rows in which every value can be written. -/
def Row.Writable (row : Row) : Prop := (Value.obj row).Writable

namespace Value

attribute [simp] Writable.null Writable.bool Writable.str

@[simp]
theorem writable_num_iff (n : Number) : (Value.num n).Writable ↔ n.Writable :=
  ⟨fun (.num writable) => writable, .num⟩

@[simp]
theorem writable_arr_iff (items : List Value) :
    (Value.arr items).Writable ↔ ∀ item ∈ items, item.Writable :=
  ⟨fun (.arr each) => each, .arr⟩

@[simp]
theorem writable_obj_iff (members : List (String × Value)) :
    (Value.obj members).Writable ↔ ∀ member ∈ members, member.2.Writable :=
  ⟨fun (.obj each) => each, .obj⟩

theorem hereditary_writable : Hereditary Writable where
  item writable := (writable_arr_iff _).1 writable
  member writable := (writable_obj_iff _).1 writable

theorem writable_passesToRecords : PassesToRecords Writable where
  toHereditary := hereditary_writable
  wrapped writable := by simpa using writable
  noFields := by simp

/-! ## Texts of values -/

/-- A way to turn values into texts that needs the texts of all numbers in a value and nothing else. -/
structure Renders (render : Value → Except TextError String) : Prop where
  plain : ∀ value, (∀ n, value ≠ .num n) → (∀ items, value ≠ .arr items) →
    (∀ members, value ≠ .obj members) → Succeeds (render value)
  number : ∀ n, Succeeds (render (.num n)) ↔ n.Writable
  array : ∀ items, Succeeds (render (.arr items)) ↔ ∀ item ∈ items, Succeeds (render item)
  object : ∀ members,
    Succeeds (render (.obj members)) ↔ ∀ member ∈ members, Succeeds (render member.2)

mutual

/-- A value has such a text if and only if it can be written. -/
theorem Renders.succeeds_iff {render : Value → Except TextError String} (renders : Renders render) :
    ∀ value, Succeeds (render value) ↔ value.Writable
  | .null => iff_of_true (renders.plain .null nofun nofun nofun) .null
  | .bool b => iff_of_true (renders.plain (.bool b) nofun nofun nofun) (.bool b)
  | .num n => (renders.number n).trans (writable_num_iff n).symm
  | .str s => iff_of_true (renders.plain (.str s) nofun nofun nofun) (.str s)
  | .arr items => by
    rw [renders.array, renders.items_succeed_iff, writable_arr_iff]
  | .obj members => by
    rw [renders.object, renders.members_succeed_iff, writable_obj_iff]

theorem Renders.items_succeed_iff
    {render : Value → Except TextError String} (renders : Renders render) :
    ∀ items : List Value, (∀ item ∈ items, Succeeds (render item)) ↔ ∀ item ∈ items, item.Writable
  | [] => iff_of_true nofun nofun
  | item :: rest => by
    rw [List.forall_mem_cons, List.forall_mem_cons, renders.succeeds_iff item,
      renders.items_succeed_iff rest]

theorem Renders.members_succeed_iff
    {render : Value → Except TextError String} (renders : Renders render) :
    ∀ members : List (String × Value),
      (∀ member ∈ members, Succeeds (render member.2)) ↔ ∀ member ∈ members, member.2.Writable
  | [] => iff_of_true nofun nofun
  | (key, value) :: rest => by
    rw [List.forall_mem_cons, List.forall_mem_cons, renders.succeeds_iff value,
      renders.members_succeed_iff rest]

end

theorem inspectItems_eq_mapM (items : List Value) : inspectItems items = items.mapM inspect := by
  induction items with
  | nil => rfl
  | cons item rest later => rw [inspectItems, List.mapM_cons, later]; rfl

theorem inspectMembers_eq_mapM (members : List (String × Value)) :
    inspectMembers members =
      members.mapM fun member => (inspect member.2).map fun text =>
        Text.quoted member.1 ++ ": " ++ text := by
  induction members with
  | nil => rfl
  | cons member rest later =>
      rw [inspectMembers, List.mapM_cons, later]
      cases inspect member.2 <;> rfl

theorem renders_inspect : Renders inspect where
  plain value notNumber notArray notObject := by
    cases value with
    | num n => exact absurd rfl (notNumber n)
    | arr items => exact absurd rfl (notArray items)
    | obj members => exact absurd rfl (notObject members)
    | _ => exact Outcome.succeeds_ok _
  number _ := Number.succeeds_text_iff
  array items := by
    rw [inspect, inspectItems_eq_mapM, Outcome.succeeds_bind_ok_iff, Outcome.succeeds_mapM_iff]
  object members := by
    rw [inspect, inspectMembers_eq_mapM, Outcome.succeeds_bind_ok_iff, Outcome.succeeds_mapM_iff]
    simp only [Outcome.succeeds_map_iff]

theorem succeeds_inspect_iff (value : Value) : Succeeds value.inspect ↔ value.Writable :=
  renders_inspect.succeeds_iff value

theorem succeeds_text_iff (value : Value) : Succeeds value.text ↔ value.Writable := by
  cases value with
  | str s => exact iff_of_true (Outcome.succeeds_ok s) (.str s)
  | _ => exact succeeds_inspect_iff _

/-- A number is looked up by a text of its own if it is whole, and this text exists for whole doubles. -/
theorem succeeds_display_iff (value : Value) : Succeeds value.display ↔ value.Writable := by
  cases value with
  | null => exact iff_of_true (Outcome.succeeds_ok _) .null
  | bool b => exact iff_of_true (Outcome.succeeds_ok _) (.bool b)
  | num n =>
      cases n with
      | int n => exact Decimal.succeeds_writeInteger_iff.trans (writable_num_iff (.int n)).symm
      | float x =>
          refine iff_of_true ?_ (.num trivial)
          simp only [display, Number.toInt?]
          cases counted : Decimal.units? x with
          | none => exact Outcome.succeeds_ok _
          | some units =>
              dsimp only
              split
              · rename_i whole isWhole
                split at isWhole
                · cases isWhole
                  exact Decimal.succeeds_writeInteger_iff.2 (Decimal.writable_of_units? counted)
                · cases isWhole
              · exact Outcome.succeeds_ok _
  | str s => exact succeeds_text_iff (.str s)
  | arr items => exact succeeds_text_iff (.arr items)
  | obj members => exact succeeds_text_iff (.obj members)

end Value

end RowPlan
