import Mathlib.Data.List.Forall2
import Mathlib.Data.List.Perm.Basic
import RowPlan.Proofs.Value.WellFormed
import RowPlan.Value.Basic

/-!
# Equality of values is an equivalence

Values are equal when they say the same: numbers by their exact values, objects whatever the order of
their members. On well-formed values this is an equivalence. An object that repeats a name can be equal
to another one without the converse, and need not even be equal to itself, since only the first member
of a name is found.
-/

namespace RowPlan.Value

/-! ## Arrays and objects, part by part -/

theorem equalItems_iff_forall₂ (left right : List Value) :
    equalItems left right = true ↔ List.Forall₂ (fun a b => equal a b = true) left right := by
  induction left generalizing right with
  | nil => cases right <;> simp [equalItems]
  | cons a rest later =>
      cases right with
      | nil => simp [equalItems]
      | cons b others => simp [equalItems, later]

theorem membersWithin_iff (left right : List (String × Value)) :
    membersWithin left right = true ↔
      ∀ member ∈ left, ∃ value, right.lookup member.1 = some value ∧ equal member.2 value = true := by
  induction left with
  | nil => simp [membersWithin]
  | cons member rest later =>
      rw [membersWithin, Bool.and_eq_true, later, List.forall_mem_cons]
      cases right.lookup member.1 <;> simp

/-! ## The laws -/

theorem WellFormed.equal_self
    {value : Value} (wellFormed : value.WellFormed) :
    equal value value = true := by
  induction wellFormed with
  | null => rfl
  | bool b => simp [equal]
  | num n => simp [equal, Number.same]
  | str s => simp [equal]
  | arr _ itemsEqual =>
      rw [equal, equalItems_iff_forall₂]
      exact List.forall₂_same.2 itemsEqual
  | obj distinct _ valuesEqual =>
      simp only [equal, beq_self_eq_true, Bool.true_and, membersWithin_iff]
      intro member isMember
      exact ⟨member.2, lookup_eq_some_of_mem distinct isMember, valuesEqual member isMember⟩

/-- The members of an object stand in another one that has as many, so that both have the same names. -/
theorem keys_perm_of_membersWithin
    {left right : List (String × Value)} (distinct : (left.map Prod.fst).Nodup)
    (sameLength : left.length = right.length) (within : membersWithin left right = true) :
    (left.map Prod.fst).Perm (right.map Prod.fst) := by
  have included : left.map Prod.fst ⊆ right.map Prod.fst := by
    intro key isKey
    rcases List.mem_map.1 isKey with ⟨member, isMember, rfl⟩
    rcases (membersWithin_iff left right).1 within member isMember with ⟨value, found, _⟩
    exact List.mem_map.2 ⟨_, mem_of_lookup_eq_some found, rfl⟩
  exact (List.subperm_of_subset distinct included).perm_of_length_le (by simp [sameLength])

theorem WellFormed.equal_symm
    {left right : Value} (wellFormed : left.WellFormed) (same : equal left right = true) :
    equal right left = true := by
  induction wellFormed generalizing right with
  | null => cases right <;> simp_all [equal]
  | bool b => cases right <;> simp_all [equal]
  | num n => cases right <;> simp_all [equal, Number.same]
  | str s => cases right <;> simp_all [equal]
  | @arr items _ itemsSymm =>
      cases right with
      | arr others =>
          rw [equal, equalItems_iff_forall₂] at same ⊢
          have eachSymm := (List.forall₂_and_left items others).2 ⟨itemsSymm, same⟩
          exact (eachSymm.imp fun a b ⟨symm, same⟩ => symm same).flip
      | _ => cases same
  | @obj members distinct _ valuesSymm =>
      cases right with
      | obj others =>
          simp only [equal, Bool.and_eq_true, beq_iff_eq] at same ⊢
          rcases same with ⟨sameLength, within⟩
          have sameKeys := keys_perm_of_membersWithin distinct sameLength within
          refine ⟨sameLength.symm, (membersWithin_iff _ _).2 ?_⟩
          intro other isOther
          -- The name belongs to a member on the left, and that one was matched with this one.
          have isKey := sameKeys.mem_iff.2 (List.mem_map_of_mem isOther)
          rcases List.mem_map.1 isKey with ⟨member, isMember, sameKey⟩
          rcases (membersWithin_iff _ _).1 within member isMember with ⟨value, found, equalValues⟩
          have foundOther := lookup_eq_some_of_mem (sameKeys.nodup_iff.1 distinct) isOther
          rw [sameKey, foundOther] at found
          cases found
          exact ⟨member.2, sameKey ▸ lookup_eq_some_of_mem distinct isMember,
            valuesSymm member isMember equalValues⟩
      | _ => cases same

theorem equalItems_trans
    {first second third : List Value}
    (each : ∀ a ∈ first, ∀ {b c}, equal a b = true → equal b c = true → equal a c = true)
    (firstSame : equalItems first second = true) (secondSame : equalItems second third = true) :
    equalItems first third = true := by
  rw [equalItems_iff_forall₂] at firstSame secondSame ⊢
  induction firstSame generalizing third with
  | nil => exact secondSame
  | cons same _ later =>
      cases secondSame with
      | cons same' others =>
          rcases List.forall_mem_cons.1 each with ⟨trans, restTrans⟩
          exact .cons (trans same same') (later restTrans others)

theorem WellFormed.equal_trans
    {first second third : Value} (wellFormed : first.WellFormed)
    (firstSame : equal first second = true) (secondSame : equal second third = true) :
    equal first third = true := by
  induction wellFormed generalizing second third with
  | null => cases second <;> cases third <;> simp_all [equal]
  | bool b => cases second <;> cases third <;> simp_all [equal]
  | num n => cases second <;> cases third <;> simp_all [equal, Number.same]
  | str s => cases second <;> cases third <;> simp_all [equal]
  | arr _ itemsTrans =>
      cases second with
      | arr seconds =>
          cases third with
          | arr thirds =>
              exact equalItems_trans (fun a isItem _ _ => itemsTrans a isItem) firstSame secondSame
          | _ => cases secondSame
      | _ => cases firstSame
  | obj _ _ valuesTrans =>
      cases second with
      | obj seconds =>
          cases third with
          | obj thirds =>
              simp only [equal, Bool.and_eq_true, beq_iff_eq] at firstSame secondSame ⊢
              refine ⟨firstSame.1.trans secondSame.1, (membersWithin_iff _ _).2 ?_⟩
              intro member isMember
              rcases (membersWithin_iff _ _).1 firstSame.2 member isMember with
                ⟨middle, found, same⟩
              rcases (membersWithin_iff _ _).1 secondSame.2 _ (mem_of_lookup_eq_some found) with
                ⟨last, foundLast, same'⟩
              exact ⟨last, foundLast, valuesTrans member isMember same same'⟩
          | _ => cases secondSame
      | _ => cases firstSame

end RowPlan.Value
