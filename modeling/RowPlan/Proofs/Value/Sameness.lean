import Mathlib.Algebra.Field.Rat
import Mathlib.Algebra.Order.Ring.Rat
import Mathlib.Order.WithBot
import RowPlan.Proofs.Execution.Partition
import RowPlan.Proofs.Value.Equality
import RowPlan.Proofs.Value.Row

/-!
# Equality of values is sameness

What values say is described here apart from how they are compared. A number says a rational number or
an end of the number line, an object says which names have which values, and its members have no order.
Values are the same when they are of one kind and say the same.

On values in which no object repeats a name and no number is NaN, equality decides sameness and is an
equivalence. NaN is equal to itself but has no value to share with another number, so it is left out.
-/

namespace RowPlan

/-! ## Exact numbers -/

namespace Decimal

theorem cast_shiftLeft (n : Int) (k : Nat) : ((n <<< k : Int) : ℚ) = n * 2 ^ k := by
  rw [Int.shiftLeft_eq]
  push_cast
  rfl

theorem cast_shiftLeft_div (n : Int) (k : Nat) :
    ((n <<< k : Int) : ℚ) / ((1 <<< k : Nat) : ℚ) = n := by
  rw [cast_shiftLeft, Nat.one_shiftLeft]
  push_cast
  exact mul_div_cancel_right₀ _ (pow_ne_zero _ two_ne_zero)

theorem unitsPerOne_ne_zero : (unitsPerOne : ℚ) ≠ 0 := by
  have positive : 0 < unitsPerOne :=
    Nat.lt_of_lt_of_eq (Nat.two_pow_pos 1074) (Nat.one_shiftLeft 1074).symm
  exact Nat.cast_ne_zero.2 positive.ne'

end Decimal

/-- The point of the number line that a place stands for. -/
def Place.point : Place → WithBot (WithTop ℚ)
  | lowest => ⊥
  | finite units => ((units / Decimal.unitsPerOne : ℚ) : WithTop ℚ)
  | highest => ((⊤ : WithTop ℚ) : WithBot (WithTop ℚ))

theorem Place.point_injective : Function.Injective point := by
  have unit := Decimal.unitsPerOne_ne_zero
  intro first second same
  cases first <;> cases second <;> simp_all [point, div_left_inj']

namespace Number

/-- The exact value of a number. The mantissa of a double counts units, which are the smallest parts of
one that doubles have. NaN has no value. -/
def value? : Number → Option (WithBot (WithTop ℚ))
  | int n => some ((n : ℚ) : WithTop ℚ)
  | float x =>
    match Decimal.parts x with
    | .nan => none
    | .infinite negative => some (if negative then ⊥ else ((⊤ : WithTop ℚ) : WithBot (WithTop ℚ)))
    | .finite negative mantissa shift =>
      let magnitude : ℚ := mantissa * 2 ^ shift / Decimal.unitsPerOne
      some ((if negative then -magnitude else magnitude : ℚ) : WithTop ℚ)

theorem value?_eq (a : Number) : a.value? = a.place?.map Place.point := by
  cases a with
  | int n =>
    have exact : ((n <<< (1074 : Nat) : Int) : ℚ) / Decimal.unitsPerOne = n :=
      Decimal.cast_shiftLeft_div n 1074
    rw [value?, place?, Option.map_some, Place.point, exact]
  | float x =>
    rw [value?, place?]
    cases Decimal.parts x with
    | nan => rfl
    | infinite negative => cases negative <;> rfl
    | finite negative mantissa shift =>
      have exact : (((mantissa <<< shift : Nat) : Int) : ℚ) = mantissa * 2 ^ shift := by
        rw [Int.natCast_shiftLeft, Decimal.cast_shiftLeft, Int.cast_natCast]
      dsimp only [Option.map_some, Place.point]
      cases negative with
      | false => rw [if_neg Bool.false_ne_true, if_neg Bool.false_ne_true, exact]
      | true => rw [if_pos rfl, if_pos rfl, Int.cast_neg, exact, neg_div]

/-- Numbers are compared by their exact values. -/
theorem same_iff_value? (a b : Number) : a.same b = true ↔ a.value? = b.value? := by
  rw [same, beq_iff_eq, value?_eq, value?_eq]
  exact (Option.map_injective Place.point_injective).eq_iff.symm

end Number

namespace Value

/-! ## Sameness -/

/-- Values that say the same: both null, the same truth value, numbers of one exact value, the same
text, arrays of one length with the same items, or objects with the same names and under each name the
same values. -/
inductive Same : Value → Value → Prop where
  | null : Same .null .null
  | bool (b : Bool) : Same (.bool b) (.bool b)
  | num {m n : Number} {point : WithBot (WithTop ℚ)} :
      m.value? = some point → n.value? = some point → Same (.num m) (.num n)
  | str (s : String) : Same (.str s) (.str s)
  | arr {items others : List Value} :
      items.length = others.length →
      (∀ (i : Nat) (a b : Value), items[i]? = some a → others[i]? = some b → Same a b) →
      Same (.arr items) (.arr others)
  | obj {members others : Row} :
      (∀ key, key ∈ members.keys ↔ key ∈ others.keys) →
      (∀ (key : String) (a b : Value), members.find? key = some a → others.find? key = some b →
        Same a b) →
      Same (.obj members) (.obj others)

/-- Values in which no number is NaN. -/
inductive NaNFree : Value → Prop where
  | null : NaNFree .null
  | bool (b : Bool) : NaNFree (.bool b)
  | num {n : Number} {point : WithBot (WithTop ℚ)} : n.value? = some point → NaNFree (.num n)
  | str (s : String) : NaNFree (.str s)
  | arr {items : List Value} : (∀ item ∈ items, NaNFree item) → NaNFree (.arr items)
  | obj {members : Row} : (∀ member ∈ members, NaNFree member.2) → NaNFree (.obj members)

/-- Values as JSON has them: no object repeats a name, and no number is NaN. -/
structure Proper (value : Value) : Prop where
  wellFormed : value.WellFormed
  nanFree : value.NaNFree

theorem kind_eq_of_equal {left right : Value} (equals : equal left right = true) :
    left.kind = right.kind := by
  cases left <;> cases right <;> first | rfl | cases equals

/-! ## Parts of proper values -/

namespace Proper

theorem item {items : List Value} (proper : (Value.arr items).Proper) {i : Nat} {value : Value}
    (found : items[i]? = some value) : value.Proper := by
  rcases proper with ⟨wellFormed, nanFree⟩
  have member := List.mem_of_getElem? found
  cases nanFree with
  | arr each => exact ⟨(wellFormed_arr_iff items).1 wellFormed value member, each value member⟩

theorem member {members : Row} (proper : (Value.obj members).Proper) {key : String} {value : Value}
    (found : members.find? key = some value) : value.Proper := by
  rcases proper with ⟨wellFormed, nanFree⟩
  cases nanFree with
  | obj each => exact ⟨wellFormed.of_lookup found, each _ (mem_of_lookup_eq_some found)⟩

theorem distinct {members : Row} (proper : (Value.obj members).Proper) : members.keys.Nodup :=
  ((wellFormed_obj_iff members).1 proper.wellFormed).1

end Proper

/-! ## Equality finds sameness -/

theorem equal_arr_iff (items others : List Value) :
    equal (.arr items) (.arr others) = true ↔
      items.length = others.length ∧
        ∀ (i : Nat) (a b : Value), items[i]? = some a → others[i]? = some b → equal a b = true := by
  rw [equal, equalItems_iff_forall₂, List.forall₂_iff_get]
  refine and_congr_right fun sameLength => ?_
  constructor
  · intro each i a b atA atB
    rcases List.getElem?_eq_some_iff.1 atA with ⟨boundA, rfl⟩
    rcases List.getElem?_eq_some_iff.1 atB with ⟨boundB, rfl⟩
    exact each i boundA boundB
  · intro each i boundA boundB
    exact each i _ _ (List.getElem?_eq_getElem boundA) (List.getElem?_eq_getElem boundB)

/-- Objects that repeat no name are equal if they have the same names with equal values. -/
theorem equal_obj_iff
    {members others : Row} (distinct : members.keys.Nodup) (distinct' : others.keys.Nodup) :
    equal (.obj members) (.obj others) = true ↔
      (∀ key, key ∈ members.keys ↔ key ∈ others.keys) ∧
        ∀ (key : String) (a b : Value), members.find? key = some a → others.find? key = some b →
          equal a b = true := by
  simp only [equal, Bool.and_eq_true, beq_iff_eq]
  constructor
  · rintro ⟨sameLength, within⟩
    refine ⟨fun key => (keys_perm_of_membersWithin distinct sameLength within).mem_iff, ?_⟩
    intro key a b foundA foundB
    rcases (membersWithin_iff members others).1 within _ (mem_of_lookup_eq_some foundA) with
      ⟨value, found, equals⟩
    cases found.symm.trans foundB
    exact equals
  · rintro ⟨sameKeys, each⟩
    have keysPerm : members.keys.Perm others.keys :=
      (List.perm_ext_iff_of_nodup distinct distinct').2 sameKeys
    refine ⟨by simpa [Row.keys] using keysPerm.length_eq, (membersWithin_iff members others).2 ?_⟩
    intro member isMember
    have isKey : member.1 ∈ others.keys := (sameKeys member.1).1 (List.mem_map_of_mem isMember)
    rcases List.mem_map.1 isKey with ⟨other, isOther, sameKey⟩
    have foundOther : others.find? member.1 = some other.2 :=
      sameKey ▸ lookup_eq_some_of_mem distinct' isOther
    exact ⟨other.2, foundOther,
      each _ _ _ (lookup_eq_some_of_mem distinct isMember) foundOther⟩

/-- Objects with the same value under every name are equal. -/
theorem WellFormed.equal_of_find?_eq
    {members others : Row} (wellFormed : (Value.obj members).WellFormed)
    (distinct : others.keys.Nodup) (same : ∀ key, members.find? key = others.find? key) :
    equal (.obj members) (.obj others) = true := by
  refine (equal_obj_iff ((wellFormed_obj_iff members).1 wellFormed).1 distinct).2 ⟨?_, ?_⟩
  · intro key
    rw [← not_iff_not, ← Row.find?_eq_none_iff, ← Row.find?_eq_none_iff, same key]
  · intro key a b foundA foundB
    rw [← same key, foundA] at foundB
    cases foundB
    exact (wellFormed.of_lookup foundA).equal_self

theorem Same.equal {left right : Value} (same : Same left right) (leftProper : left.Proper)
    (rightProper : right.Proper) : equal left right = true := by
  induction same with
  | null => rfl
  | bool b => exact beq_self_eq_true b
  | num first second => exact (Number.same_iff_value? _ _).2 (first.trans second.symm)
  | str s => exact beq_self_eq_true s
  | arr sameLength _ later =>
    refine (equal_arr_iff _ _).2 ⟨sameLength, ?_⟩
    intro i a b atA atB
    exact later i a b atA atB (leftProper.item atA) (rightProper.item atB)
  | obj sameKeys _ later =>
    refine (equal_obj_iff leftProper.distinct rightProper.distinct).2 ⟨sameKeys, ?_⟩
    intro key a b foundA foundB
    exact later key a b foundA foundB (leftProper.member foundA) (rightProper.member foundB)

theorem Proper.same {left right : Value} (leftProper : left.Proper) (rightProper : right.Proper)
    (equals : Value.equal left right = true) : Same left right := by
  rcases leftProper with ⟨wellFormed, nanFree⟩
  induction nanFree generalizing right with
  | null =>
    cases right with
    | null => exact .null
    | _ => cases equals
  | bool b =>
    cases right with
    | bool c =>
      cases (eq_of_beq equals : b = c)
      exact .bool b
    | _ => cases equals
  | num exact =>
    cases right with
    | num n => exact .num exact (((Number.same_iff_value? _ _).1 equals).symm.trans exact)
    | _ => cases equals
  | str s =>
    cases right with
    | str t =>
      cases (eq_of_beq equals : s = t)
      exact .str s
    | _ => cases equals
  | arr each later =>
    cases right with
    | arr others =>
      have leftProper : (Value.arr _).Proper := ⟨wellFormed, .arr each⟩
      rcases (equal_arr_iff _ others).1 equals with ⟨sameLength, itemsEqual⟩
      refine .arr sameLength ?_
      intro i a b atA atB
      exact later a (List.mem_of_getElem? atA) (rightProper.item atB) (itemsEqual i a b atA atB)
        (leftProper.item atA).wellFormed
    | _ => cases equals
  | obj each later =>
    cases right with
    | obj others =>
      have leftProper : (Value.obj _).Proper := ⟨wellFormed, .obj each⟩
      rcases (equal_obj_iff leftProper.distinct rightProper.distinct).1 equals with
        ⟨sameKeys, valuesEqual⟩
      refine .obj sameKeys ?_
      intro key a b foundA foundB
      exact later _ (mem_of_lookup_eq_some foundA) (rightProper.member foundB)
        (valuesEqual key a b foundA foundB) (leftProper.member foundA).wellFormed
    | _ => cases equals

/-- The order of the members of an object does not matter. -/
theorem Proper.equal_of_perm {members others : Row} (proper : (Value.obj members).Proper)
    (reordered : members.Perm others) :
    Value.equal (.obj members) (.obj others) = true := by
  have sameKeys : members.keys.Perm others.keys := reordered.map _
  refine (equal_obj_iff proper.distinct (sameKeys.nodup_iff.1 proper.distinct)).2
    ⟨fun key => sameKeys.mem_iff, ?_⟩
  intro key a b foundA foundB
  have member : (key, b) ∈ members := reordered.mem_iff.2 (mem_of_lookup_eq_some foundB)
  cases foundA.symm.trans (lookup_eq_some_of_mem proper.distinct member)
  exact (proper.member foundA).wellFormed.equal_self

/--
Equality of proper values is an equivalence that holds exactly of values that say the same. It does not
see the order of members, and it never holds of values of different kinds.
-/
theorem equal_iff_same :
    EquivalenceOn Proper (fun a b => equal a b = true) ∧
      (∀ a b : Value, a.Proper → b.Proper → (equal a b = true ↔ Same a b)) ∧
      (∀ members others : Row, (Value.obj members).Proper → members.Perm others →
        equal (.obj members) (.obj others) = true) ∧
      ∀ a b : Value, a.kind ≠ b.kind → equal a b = false := by
  refine ⟨?_, ?_, ?_, ?_⟩
  · exact {
      refl := fun proper => proper.wellFormed.equal_self
      symm := fun proper => proper.wellFormed.equal_symm
      trans := fun proper => proper.wellFormed.equal_trans }
  · intro a b leftProper rightProper
    exact ⟨leftProper.same rightProper, fun same => same.equal leftProper rightProper⟩
  · intro members others proper reordered
    exact proper.equal_of_perm reordered
  · intro a b different
    exact Bool.eq_false_iff.2 fun equals => different (kind_eq_of_equal equals)

/-- An integer and a double are the same number, in objects that name their members in another order;
a truth value is no number. -/
theorem equal_iff_same_whole_double :
    let one := Value.num (.float (Decimal.ofMagnitudeBits false (1023 <<< 52)))
    let left := Value.obj [("n", .num (.int 1)), ("tags", .arr [.bool true, .null])]
    let right := Value.obj [("tags", .arr [.bool true, .null]), ("n", one)]
    left.Proper ∧ right.Proper ∧ Same left right ∧ equal right left = true ∧
      equal (.bool true) one = false := by
  intro one left right
  have whole : (Number.float (Decimal.ofMagnitudeBits false (1023 <<< 52))).value? =
      (Number.int 1).value? :=
    (Number.same_iff_value? _ _).1 (by decide +kernel)
  have leftProper : left.Proper := by
    refine ⟨by simp [left], .obj ?_⟩
    simp only [List.forall_mem_cons]
    exact ⟨.num rfl, .arr (by simp [NaNFree.bool, NaNFree.null]), nofun⟩
  have rightProper : right.Proper := by
    refine ⟨by simp [right, one], .obj ?_⟩
    simp only [List.forall_mem_cons]
    exact ⟨.arr (by simp [NaNFree.bool, NaNFree.null]), .num whole, nofun⟩
  rcases equal_iff_same with ⟨equivalence, exactly, _, apart⟩
  have equals : equal left right = true := by decide +kernel
  exact ⟨leftProper, rightProper, (exactly left right leftProper rightProper).1 equals,
    equivalence.symm leftProper equals, apart _ _ (by decide)⟩

end Value

end RowPlan
