import RowPlan.Shape

/-!
# Readings that succeed

A reading either gives a value or reports issues, and where it stands in a document only changes the
places of its issues. These lemmas take a successful reading apart into the readings of its parts. A
list is read when each of its items is, at whatever indices they stand, so that lists that can be read
can be joined. Whatever stands in a result was read from some part of the value.
-/

namespace RowPlan.Shape

variable {α β : Type}

namespace Checked

/-- The place of a reading does not touch what was read. -/
@[simp]
theorem under_eq_valid_iff
    {key : String} {reading : Checked α} {value : α} :
    reading.under key = .valid value ↔ reading = .valid value := by
  cases reading with
  | valid read => exact Iff.rfl
  | invalid issues => simp [under]

theorem map_eq_valid_iff
    {f : α → β} {reading : Checked α} {result : β} :
    reading.map f = .valid result ↔ ∃ value, reading = .valid value ∧ f value = result := by
  cases reading with
  | valid read => simp [map]
  | invalid issues => simp [map]

/-- Two readings succeed together when each does. -/
theorem both_eq_valid_iff
    {first : Checked (α → β)} {second : Checked α} {result : β} :
    first.both second = .valid result ↔
      ∃ f value, first = .valid f ∧ second = .valid value ∧ f value = result := by
  cases first with
  | valid f => cases second <;> simp [both]
  | invalid issues => cases second <;> simp [both]

end Checked

theorem optional_of_ne_null
    {read : Value → Checked α} {value : Value} (given : value ≠ .null) :
    optional read value = (read value).map some := by
  cases value with
  | null => exact absurd rfl given
  | _ => rfl

theorem items_cons_eq_valid_iff
    {read : Value → Checked α} {index : Nat} {value : Value} {rest : List Value}
    {results : List α} :
    items read index (value :: rest) = .valid results ↔
      ∃ result more,
        read value = .valid result ∧ items read (index + 1) rest = .valid more ∧
          results = result :: more := by
  rw [items, Checked.both_eq_valid_iff]
  constructor
  · rintro ⟨f, more, head, tail, rfl⟩
    rcases Checked.map_eq_valid_iff.1 head with ⟨result, itemRead, rfl⟩
    exact ⟨result, more, Checked.under_eq_valid_iff.1 itemRead, tail, rfl⟩
  · rintro ⟨result, more, head, tail, rfl⟩
    refine ⟨List.cons result, more, ?_, tail, rfl⟩
    exact Checked.map_eq_valid_iff.2 ⟨result, Checked.under_eq_valid_iff.2 head, rfl⟩

/-- Whether items can be read does not depend on where they stand. -/
theorem items_eq_valid_at
    {read : Value → Checked α} {index : Nat} {values : List Value} {results : List α}
    (itemsRead : items read index values = .valid results) (other : Nat) :
    items read other values = .valid results := by
  induction values generalizing index other results with
  | nil => exact itemsRead
  | cons value rest later =>
      rcases items_cons_eq_valid_iff.1 itemsRead with ⟨result, more, head, tail, rfl⟩
      exact items_cons_eq_valid_iff.2 ⟨result, more, head, later tail (other + 1), rfl⟩

/-- A list of written things is read when each of them is. -/
theorem items_map_eq_valid
    {read : Value → Checked β} {write : α → Value} {reread : α → β}
    (each : ∀ item, read (write item) = .valid (reread item)) (index : Nat) (written : List α) :
    items read index (written.map write) = .valid (written.map reread) := by
  induction written generalizing index with
  | nil => rfl
  | cons item rest later =>
      exact items_cons_eq_valid_iff.2
        ⟨reread item, rest.map reread, each item, later (index + 1), rfl⟩

theorem items_append_eq_valid
    {read : Value → Checked α} {index other : Nat} {first second : List Value}
    {firstResults secondResults : List α}
    (firstRead : items read index first = .valid firstResults)
    (secondRead : items read other second = .valid secondResults) :
    items read index (first ++ second) = .valid (firstResults ++ secondResults) := by
  induction first generalizing index firstResults with
  | nil =>
      cases firstRead
      exact items_eq_valid_at secondRead index
  | cons value rest later =>
      rcases items_cons_eq_valid_iff.1 firstRead with ⟨result, more, head, tail, rfl⟩
      exact items_cons_eq_valid_iff.2 ⟨result, more ++ secondResults, head, later tail, rfl⟩

/-! ## Members and items that were read -/

theorem member_eq_valid
    {members : Row} {keys : List String} {reader : Value → Checked α} {result : α}
    (read : member members keys reader = .valid result) :
    ∃ value, reader value = .valid result := by
  rw [member] at read
  split at read
  · exact ⟨_, Checked.under_eq_valid_iff.1 read⟩
  · cases read

/-- An absent member has its default; one that is there was read. -/
theorem memberOr_eq_valid
    {members : Row} {keys : List String} {reader : Value → Checked α} {default result : α}
    (read : memberOr members keys reader default = .valid result) :
    result = default ∨ ∃ value, reader value = .valid result := by
  rw [memberOr] at read
  split at read
  · exact Or.inr ⟨_, Checked.under_eq_valid_iff.1 read⟩
  · cases read
    exact Or.inl rfl

theorem optional_eq_valid
    {reader : Value → Checked α} {value : Value} {result : Option α}
    (read : optional reader value = .valid result) :
    result = none ∨ ∃ item, reader value = .valid item ∧ result = some item := by
  unfold optional at read
  split at read
  · cases read
    exact Or.inl rfl
  · rcases Checked.map_eq_valid_iff.1 read with ⟨item, itemRead, rfl⟩
    exact Or.inr ⟨item, itemRead, rfl⟩

theorem exists_read_of_mem_items
    {reader : Value → Checked α} {index : Nat} {values : List Value} {results : List α}
    (read : items reader index values = .valid results)
    {result : α} (member : result ∈ results) :
    ∃ value, reader value = .valid result := by
  induction values generalizing index results with
  | nil =>
      cases read
      cases member
  | cons value rest later =>
      rcases items_cons_eq_valid_iff.1 read with ⟨first, more, firstRead, restRead, rfl⟩
      rcases List.mem_cons.1 member with rfl | further
      · exact ⟨value, firstRead⟩
      · exact later restRead further

/-- Every item of an array that may be absent was read from some value. -/
theorem exists_read_of_mem_array
    {members : Row} {keys : List String} {reader : Value → Checked α} {results : List α}
    (read : memberOr members keys (array reader) [] = .valid results)
    {result : α} (member : result ∈ results) :
    ∃ value, reader value = .valid result := by
  rcases memberOr_eq_valid read with rfl | ⟨value, arrayRead⟩
  · cases member
  · cases value with
    | arr values => exact exists_read_of_mem_items arrayRead member
    | _ => cases arrayRead

end RowPlan.Shape
