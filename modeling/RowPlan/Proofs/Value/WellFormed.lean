import RowPlan.Proofs.Value.Hereditary
import RowPlan.Proofs.Value.Row

/-!
# Well-formed values

A value is well-formed when the members of each object in it have different names. Every document is,
since reading an object keeps one member for each name.

Only for well-formed values does a member list say the same in every order, so that equality of values
is an equivalence, and only then do the names of a row serve as the targets of a plan.
-/

namespace RowPlan

/-- Values in which no object repeats a name. -/
inductive Value.WellFormed : Value → Prop where
  | null : WellFormed .null
  | bool (b : Bool) : WellFormed (.bool b)
  | num (n : Number) : WellFormed (.num n)
  | str (s : String) : WellFormed (.str s)
  | arr {items} : (∀ item ∈ items, WellFormed item) → WellFormed (.arr items)
  | obj {members} :
      (members.map Prod.fst).Nodup → (∀ member ∈ members, WellFormed member.2) →
      WellFormed (.obj members)

/-- Rows with different names and well-formed values. -/
def Row.WellFormed (row : Row) : Prop := (Value.obj row).WellFormed

namespace Value

attribute [simp] WellFormed.null WellFormed.bool WellFormed.num WellFormed.str

@[simp]
theorem wellFormed_arr_iff (items : List Value) :
    (Value.arr items).WellFormed ↔ ∀ item ∈ items, item.WellFormed := by
  constructor
  · rintro (_ | _ | _ | _ | each)
    exact each
  · exact .arr

@[simp]
theorem wellFormed_obj_iff (members : List (String × Value)) :
    (Value.obj members).WellFormed ↔
      (members.map Prod.fst).Nodup ∧ ∀ member ∈ members, member.2.WellFormed := by
  constructor
  · rintro (_ | _ | _ | _ | _ | ⟨distinct, each⟩)
    exact ⟨distinct, each⟩
  · rintro ⟨distinct, each⟩
    exact .obj distinct each

theorem hereditary_wellFormed : Hereditary WellFormed where
  item wellFormed := (wellFormed_arr_iff _).1 wellFormed
  member wellFormed := ((wellFormed_obj_iff _).1 wellFormed).2

theorem wellFormed_passesToRecords : PassesToRecords WellFormed where
  toHereditary := hereditary_wellFormed
  wrapped wellFormed := by simpa using wellFormed
  noFields := by simp

end Value

/-! ## Members of objects -/

section Members

variable {members : List (String × Value)} {key : String} {value : Value}

/-- Where no name is repeated, every member is found under its name. -/
theorem lookup_eq_some_of_mem
    (distinct : (members.map Prod.fst).Nodup) (member : (key, value) ∈ members) :
    members.lookup key = some value := by
  rcases List.append_of_mem member with ⟨before, after, rfl⟩
  refine List.lookup_eq_some_iff.2 ⟨before, after, rfl, ?_⟩
  intro other otherMember
  rw [List.map_append, List.nodup_append] at distinct
  simpa using (distinct.2.2 other.1 (List.mem_map_of_mem otherMember) key (by simp)).symm

theorem Value.WellFormed.of_lookup
    (wellFormed : (Value.obj members).WellFormed) (found : members.lookup key = some value) :
    value.WellFormed :=
  Value.hereditary_wellFormed.member wellFormed _ (mem_of_lookup_eq_some found)

end Members

/-- A well-formed row stays so when fields are given well-formed values, whatever names are repeated. -/
theorem Row.WellFormed.setAll
    {row : Row} (wellFormed : row.WellFormed) {fields : List (String × Value)}
    (each : ∀ field ∈ fields, field.2.WellFormed) :
    (row.setAll fields).WellFormed := by
  rcases (Value.wellFormed_obj_iff row).1 wellFormed with ⟨distinct, before⟩
  refine .obj (Row.nodup_keys_setAll distinct fields) ?_
  intro field member
  rcases Row.mem_of_mem_setAll member with old | given
  · exact before field old
  · exact each field given

theorem Field.wellFormed_readOrNull
    {row : Row} (wellFormed : row.WellFormed) (resolution : Resolution) :
    (readOrNull row resolution).WellFormed :=
  Value.hereditary_wellFormed.of_readOrNull wellFormed .null resolution

end RowPlan
