import RowPlan.Value.Basic

/-!
# Fields of rows

Giving a field a value changes that field and no other one. A row that is given several fields with
different names has all of them in the end, whatever it had before.
-/

namespace RowPlan.Row

theorem find?_eq_none_iff {row : Row} {key : String} : row.find? key = none ↔ key ∉ row.keys := by
  rw [find?, List.lookup_eq_none_iff, keys, List.mem_map]
  simp only [bne_iff_ne, not_exists, not_and, ne_comm]

/-- Whether a row has a field depends on the names of its fields alone. -/
theorem has_congr {row other : Row} (sameKeys : row.keys = other.keys) (key : String) :
    row.has key = other.has key := by
  have named (row : Row) : row.has key = row.keys.any (· == key) := by
    rw [keys, List.any_map]
    rfl
  rw [named, named, sameKeys]

@[simp]
theorem find?_set_same
    (row : Row) (key : String) (value : Value) :
    (Row.set row key value).find? key = some value := by
  induction row with
  | nil => simp [Row.set, find?]
  | cons field rest later =>
      rcases field with ⟨name, old⟩
      rw [Row.set]
      by_cases same : name = key
      · rw [if_pos same]
        exact List.lookup_cons_self
      · rw [if_neg same, find?, List.lookup_cons, beq_false_of_ne (Ne.symm same)]
        exact later

theorem find?_set_other
    {key other : String} (different : other ≠ key) (row : Row) (value : Value) :
    (Row.set row key value).find? other = row.find? other := by
  induction row with
  | nil =>
      rw [Row.set, find?, List.lookup_cons, beq_false_of_ne different]
      rfl
  | cons field rest later =>
      rcases field with ⟨name, old⟩
      rw [Row.set]
      by_cases same : name = key
      · subst same
        rw [if_pos rfl]
        simp only [find?, List.lookup_cons, beq_false_of_ne different]
      · rw [if_neg same]
        simp only [find?, List.lookup_cons]
        cases other == name with
        | true => rfl
        | false => exact later

/-- A field that a row does not have comes at its end. -/
theorem set_of_not_mem_keys
    {key : String} {row : Row} (absent : key ∉ row.keys) (value : Value) :
    row.set key value = row ++ [(key, value)] := by
  induction row with
  | nil => rfl
  | cons field rest later =>
      rcases field with ⟨name, old⟩
      rw [keys, List.map_cons, List.mem_cons, not_or] at absent
      rw [Row.set, if_neg (Ne.symm absent.1), later absent.2, List.cons_append]

/-- A field that a row has keeps its place, so the row gets no longer. -/
theorem keys_set_of_mem_keys
    {key : String} {row : Row} (present : key ∈ row.keys) (value : Value) :
    (row.set key value).keys = row.keys := by
  induction row with
  | nil => cases present
  | cons field rest later =>
      rcases field with ⟨name, old⟩
      rw [Row.set]
      by_cases same : name = key
      · rw [if_pos same, ← same]
        rfl
      · rw [if_neg same]
        have presentLater := (List.mem_cons.1 present).resolve_left (Ne.symm same)
        exact congrArg (name :: ·) (later presentLater)

/-- A field comes to the same place in rows with the same fields. -/
theorem keys_set_congr
    {row other : Row} (sameKeys : row.keys = other.keys) (key : String) (value value' : Value) :
    (row.set key value).keys = (other.set key value').keys := by
  by_cases present : key ∈ row.keys
  · rw [keys_set_of_mem_keys present, keys_set_of_mem_keys (sameKeys ▸ present), sameKeys]
  · rw [set_of_not_mem_keys present, set_of_not_mem_keys (sameKeys ▸ present)]
    simpa [keys] using sameKeys

theorem mem_keys_set
    {name key : String} {row : Row} {value : Value} :
    name ∈ (row.set key value).keys ↔ name ∈ row.keys ∨ name = key := by
  by_cases present : key ∈ row.keys
  · rw [keys_set_of_mem_keys present]
    exact ⟨.inl, fun found => found.elim id (· ▸ present)⟩
  · rw [set_of_not_mem_keys present]
    simp [keys]

theorem nodup_keys_set
    {row : Row} (distinct : row.keys.Nodup) (key : String) (value : Value) :
    (row.set key value).keys.Nodup := by
  by_cases present : key ∈ row.keys
  · rwa [keys_set_of_mem_keys present]
  · rw [set_of_not_mem_keys present, keys, List.map_append, List.nodup_append]
    refine ⟨distinct, List.pairwise_singleton _ _, ?_⟩
    intro name isName other isKey same
    cases List.mem_singleton.1 isKey
    subst same
    exact present isName

theorem mem_of_mem_set
    {field : String × Value} {row : Row} {key : String} {value : Value}
    (member : field ∈ row.set key value) :
    field ∈ row ∨ field = (key, value) := by
  induction row with
  | nil => exact .inr (List.mem_singleton.1 member)
  | cons other rest later =>
      rcases other with ⟨name, old⟩
      rw [Row.set] at member
      split at member
      · exact (List.mem_cons.1 member).symm.imp (List.mem_cons_of_mem _) id
      · rcases List.mem_cons.1 member with rfl | member
        · exact .inl List.mem_cons_self
        · exact (later member).imp (List.mem_cons_of_mem _) id

theorem find?_setAll_other
    {key : String} {fields : List (String × Value)} (absent : key ∉ fields.map (·.1)) (row : Row) :
    (setAll row fields).find? key = row.find? key := by
  induction fields generalizing row with
  | nil => rfl
  | cons field rest later =>
      rw [List.map_cons, List.mem_cons, not_or] at absent
      exact (later absent.2 (row.set field.1 field.2)).trans (find?_set_other absent.1 row field.2)

/-- Each of several fields with different names is there in the end. -/
theorem find?_setAll_of_mem
    {key : String} {value : Value} {fields : List (String × Value)}
    (distinct : (fields.map (·.1)).Nodup) (member : (key, value) ∈ fields) (row : Row) :
    (setAll row fields).find? key = some value := by
  induction fields generalizing row with
  | nil => cases member
  | cons field rest later =>
      rw [List.map_cons, List.nodup_cons] at distinct
      rcases List.mem_cons.1 member with rfl | member
      · exact (find?_setAll_other distinct.1 _).trans (find?_set_same row key value)
      · exact later distinct.2 member (row.set field.1 field.2)

/-- Several fields with different names may be given their values in any order. -/
theorem find?_setAll_of_perm
    {fields others : List (String × Value)} (distinct : (fields.map (·.1)).Nodup)
    (reordered : fields.Perm others) (row : Row) (key : String) :
    (setAll row fields).find? key = (setAll row others).find? key := by
  have sameNames : (fields.map (·.1)).Perm (others.map (·.1)) := reordered.map _
  by_cases given : key ∈ fields.map (·.1)
  · rcases List.mem_map.1 given with ⟨field, member, rfl⟩
    have first := find?_setAll_of_mem distinct member row
    have second := find?_setAll_of_mem (sameNames.nodup distinct) (reordered.mem_iff.1 member) row
    exact first.trans second.symm
  · have notGiven : key ∉ others.map (·.1) := fun member => given (sameNames.mem_iff.2 member)
    rw [find?_setAll_other given, find?_setAll_other notGiven]

theorem setAll_append
    (row : Row) (first second : List (String × Value)) :
    setAll row (first ++ second) = setAll (setAll row first) second :=
  List.foldl_append

/-- New fields with different names are written down as they are given. -/
theorem setAll_of_nodup
    {row : Row} {fields : List (String × Value)}
    (distinct : (row.keys ++ fields.map (·.1)).Nodup) :
    setAll row fields = row ++ fields := by
  induction fields generalizing row with
  | nil => exact (List.append_nil row).symm
  | cons field rest later =>
      have absent : field.1 ∉ row.keys := by
        intro present
        exact (List.nodup_append.1 distinct).2.2 _ present _ List.mem_cons_self rfl
      have distinctLater :
          (keys (row ++ [(field.1, field.2)]) ++ rest.map (·.1)).Nodup := by
        simpa [keys] using distinct
      calc
        setAll row (field :: rest) = setAll (row.set field.1 field.2) rest := rfl
        _ = (row ++ [(field.1, field.2)]) ++ rest := by
          rw [set_of_not_mem_keys absent, later distinctLater]
        _ = row ++ field :: rest := by simp

theorem mem_keys_setAll
    {key : String} (row : Row) (fields : List (String × Value)) :
    key ∈ (setAll row fields).keys ↔ key ∈ row.keys ∨ key ∈ fields.map (·.1) := by
  induction fields generalizing row with
  | nil => simp [setAll]
  | cons field rest later =>
      rw [List.map_cons, List.mem_cons, ← or_assoc, ← mem_keys_set]
      exact later (row.set field.1 field.2)

theorem mem_of_mem_setAll
    {field : String × Value} {row : Row} {fields : List (String × Value)}
    (member : field ∈ setAll row fields) :
    field ∈ row ∨ field ∈ fields := by
  induction fields generalizing row with
  | nil => exact .inl member
  | cons first rest later =>
      rcases later member with isSet | isLater
      · rcases mem_of_mem_set isSet with before | rfl
        · exact .inl before
        · exact .inr List.mem_cons_self
      · exact .inr (List.mem_cons_of_mem _ isLater)

/-- Giving fields values never makes a name appear twice. -/
theorem nodup_keys_setAll
    {row : Row} (distinct : row.keys.Nodup) (fields : List (String × Value)) :
    (setAll row fields).keys.Nodup := by
  induction fields generalizing row with
  | nil => exact distinct
  | cons field rest later => exact later (nodup_keys_set distinct field.1 field.2)

theorem keys_ofPairs
    {pairs : List (String × Value)} (distinct : (pairs.map (·.1)).Nodup) :
    (ofPairs pairs).keys = pairs.map (·.1) := by
  have written : setAll [] pairs = [] ++ pairs := setAll_of_nodup distinct
  exact congrArg keys written

end RowPlan.Row
