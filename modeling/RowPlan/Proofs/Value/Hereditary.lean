import RowPlan.Field.Resolution
import RowPlan.Records

/-!
# Properties that pass to the parts of a value

A property is hereditary when the items of an array and the members of an object have it with them. It
then holds wherever a pointer leads in such a value, and of every field that is read from such a row. The
records that a pointer names have it as well if a value keeps it when it is wrapped to be a row.
-/

namespace RowPlan

theorem mem_of_lookup_eq_some
    {members : List (String × Value)} {key : String} {value : Value}
    (found : members.lookup key = some value) :
    (key, value) ∈ members := by
  rcases List.lookup_eq_some_iff.1 found with ⟨before, after, rfl, _⟩
  simp

/-- A property of values that passes to the items of arrays and to the members of objects. -/
structure Value.Hereditary (property : Value → Prop) : Prop where
  item : ∀ {items}, property (.arr items) → ∀ item ∈ items, property item
  member : ∀ {members}, property (.obj members) → ∀ member ∈ members, property member.2

namespace Value.Hereditary

variable {property : Value → Prop} (hereditary : Hereditary property)

include hereditary

theorem of_item?
    {items : List Value} (all : property (.arr items)) {segment : String} {value : Value}
    (found : Pointer.item? items segment = some value) :
    property value := by
  unfold Pointer.item? at found
  split at found
  · exact hereditary.item all value (List.mem_of_getElem? found)
  · cases found

/-- What segments lead to has the property of the value that they start in. -/
theorem of_follow
    {start : Value} (holds : property start) {segments : List String} {value : Value}
    (found : Pointer.follow start segments = some value) :
    property value := by
  induction segments generalizing start with
  | nil =>
      cases start <;> cases found <;> exact holds
  | cons segment rest later =>
      cases start with
      | obj members =>
          rcases Option.bind_eq_some_iff.1 found with ⟨next, atSegment, found⟩
          exact later (hereditary.member holds _ (mem_of_lookup_eq_some atSegment)) found
      | arr items =>
          rcases Option.bind_eq_some_iff.1 found with ⟨next, atSegment, found⟩
          exact later (hereditary.of_item? holds atSegment) found
      | _ => cases found

theorem of_resolve
    {document : Value} (holds : property document) {path : String} {value : Value}
    (found : Pointer.resolve document path = some value) :
    property value :=
  hereditary.of_follow holds found

theorem of_read
    {row : Row} (holds : property (.obj row)) {resolution : Field.Resolution} {value : Value}
    (found : Field.read row resolution = some value) :
    property value := by
  rw [Field.read] at found
  split at found
  · cases found
  · exact hereditary.of_resolve holds found

/-- A field that is read has the property if an absent one does. -/
theorem of_readOrNull
    {row : Row} (holds : property (.obj row)) (null : property .null)
    (resolution : Field.Resolution) :
    property (Field.readOrNull row resolution) := by
  rw [Field.readOrNull]
  cases found : Field.read row resolution with
  | none => exact null
  | some value => exact hereditary.of_read holds found

end Value.Hereditary

/-! ## Records -/

/-- A hereditary property that the rows of records have: it stays when a value is wrapped to be a row, and a
row without fields has it. -/
structure Value.PassesToRecords (property : Value → Prop) : Prop extends Hereditary property where
  wrapped : ∀ {value}, property value → property (.obj [(wrappedField, value)])
  noFields : property (.obj [])

namespace Value.PassesToRecords

variable {property : Value → Prop} (passes : PassesToRecords property)

include passes

theorem of_rowOf?
    {item : Value} (holds : property item) {row : Row} (isRow : Records.rowOf? item = some row) :
    property (.obj row) := by
  cases item with
  | obj members =>
      cases isRow
      exact holds
  | null => cases isRow
  | _ =>
      cases isRow
      exact passes.wrapped holds

theorem of_ofValue
    {value : Value} (holds : property value) {records : Records}
    (read : Records.ofValue value = .ok records) :
    ∀ row ∈ records.rows, property (.obj row) := by
  cases value with
  | arr items =>
      cases read
      intro row member
      rcases List.mem_filterMap.1 member with ⟨item, itemMember, isRow⟩
      exact passes.of_rowOf? (passes.item holds item itemMember) isRow
  | obj members =>
      cases read
      exact List.forall_mem_singleton.2 holds
  | null =>
      cases read
      exact List.forall_mem_nil _
  | _ => cases read

theorem of_extract
    {document : Value} (holds : property document) {path : String} {records : Records}
    (extracted : Records.extract document path = .ok records) :
    ∀ row ∈ records.rows, property (.obj row) := by
  unfold Records.extract at extracted
  split at extracted
  · exact passes.of_ofValue holds extracted
  · cases found : Pointer.resolve document path with
    | none => simp [found] at extracted
    | some value =>
        rw [found] at extracted
        exact passes.of_ofValue (passes.of_resolve holds found) extracted

/-- The row that stands for the records has the property, also where there are none. -/
theorem of_sample
    {document : Value} (holds : property document) {path : String} {records : Records}
    (extracted : Records.extract document path = .ok records) :
    property (.obj (Records.sample records.rows)) := by
  have each := passes.of_extract holds extracted
  rw [Records.sample]
  cases rows : records.rows with
  | nil => exact passes.noFields
  | cons first rest =>
      rw [rows] at each
      exact each first List.mem_cons_self

end Value.PassesToRecords

end RowPlan
