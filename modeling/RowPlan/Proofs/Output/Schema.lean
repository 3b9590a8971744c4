import Mathlib.Data.List.Induction
import RowPlan.Output.Schema
import RowPlan.Pointer
import RowPlan.Proofs.Output.Columns
import RowPlan.Proofs.Value.Row

/-!
# Schemas describe their tables

The properties of a schema are the columns of its table. A property lists a type exactly if the column
has a value of that type somewhere, each type once, in the order in which the rows bring them up. Rows
that come later add columns and types behind those that are there, and so the whole list can be collected
in one pass over the rows.
-/

namespace RowPlan.Schema

/-! ## The types of a column -/

theorem mem_typesAt_iff
    {rows : List Row} {column : String} {type : ValueType} :
    type ∈ typesAt rows column ↔
      ∃ row ∈ rows, ∃ value, row.find? column = some value ∧ typeOf value = type := by
  simp only [typesAt, valuesAt, List.mem_eraseDups, List.mem_map, List.mem_filterMap]
  constructor
  · rintro ⟨value, ⟨row, member, found⟩, hasType⟩
    exact ⟨row, member, value, found, hasType⟩
  · rintro ⟨row, member, value, found, hasType⟩
    exact ⟨value, ⟨row, member, found⟩, hasType⟩

theorem nodup_typesAt (rows : List Row) (column : String) : (typesAt rows column).Nodup :=
  nodup_eraseDups _

/-- The number of the first row in which a column has a value of a type. -/
def firstRow (rows : List Row) (column : String) (type : ValueType) : Nat :=
  rows.findIdx fun row => (row.find? column).map typeOf == some type

theorem firstRow_cons_self
    {row : Row} {column : String} {value : Value} (found : row.find? column = some value)
    (rest : List Row) :
    firstRow (row :: rest) column (typeOf value) = 0 := by
  simp [firstRow, List.findIdx_cons, found]

theorem firstRow_cons_other
    {row : Row} {column : String} {type : ValueType}
    (other : (row.find? column).map typeOf ≠ some type) (rest : List Row) :
    firstRow (row :: rest) column type = firstRow rest column type + 1 := by
  simp [firstRow, List.findIdx_cons, beq_false_of_ne other]

/-- Of two types, the one that occurs first among the values occurs in an earlier row. -/
theorem firstRow_lt_of_idxOf_lt
    {rows : List Row} {column : String} {type later : ValueType}
    (before :
      ((valuesAt rows column).map typeOf).idxOf type <
        ((valuesAt rows column).map typeOf).idxOf later) :
    firstRow rows column type < firstRow rows column later := by
  induction rows with
  | nil => exact absurd before (Nat.lt_irrefl _)
  | cons row rest inRest =>
      cases found : row.find? column with
      | none =>
          have absent (type : ValueType) : (row.find? column).map typeOf ≠ some type := by
            simp [found]
          rw [firstRow_cons_other (absent type), firstRow_cons_other (absent later)]
          apply Nat.succ_lt_succ
          apply inRest
          simpa [valuesAt, found] using before
      | some value =>
          have values : valuesAt (row :: rest) column = value :: valuesAt rest column := by
            simp [valuesAt, found]
          rw [values, List.map_cons] at before
          have notLater : typeOf value ≠ later := by
            rintro rfl
            rw [List.idxOf_cons_self] at before
            exact Nat.not_lt_zero _ before
          have absent {other : ValueType} (different : typeOf value ≠ other) :
              (row.find? column).map typeOf ≠ some other := by
            simpa [found] using different
          rw [firstRow_cons_other (absent notLater)]
          by_cases isType : typeOf value = type
          · subst isType
            rw [firstRow_cons_self found]
            exact Nat.succ_pos _
          · rw [firstRow_cons_other (absent isType)]
            rw [List.idxOf_cons_ne _ isType, List.idxOf_cons_ne _ notLater] at before
            exact Nat.succ_lt_succ (inRest (Nat.lt_of_succ_lt_succ before))

/-- The types stand in the order of the rows that bring them up. -/
theorem pairwise_typesAt (rows : List Row) (column : String) :
    (typesAt rows column).Pairwise fun type later =>
      firstRow rows column type < firstRow rows column later :=
  (pairwise_eraseDups _).imp firstRow_lt_of_idxOf_lt

/-! ## Rows that come later -/

theorem columns_isPrefix_append (rows more : List Row) :
    Output.columns rows <+: Output.columns (rows ++ more) := by
  simp only [Output.columns, List.flatMap_append, List.eraseDups_append]
  exact List.prefix_append _ _

theorem typesAt_isPrefix_append (rows more : List Row) (column : String) :
    typesAt rows column <+: typesAt (rows ++ more) column := by
  simp only [typesAt, valuesAt, List.filterMap_append, List.map_append, List.eraseDups_append]
  exact List.prefix_append _ _

/-- The types of a column after one more value, or none. -/
def seen (types : List ValueType) : Option Value → List ValueType
  | none => types
  | some value => if typeOf value ∈ types then types else types ++ [typeOf value]

/-- The columns and types after one more field. -/
def observe :
    List (String × List ValueType) → String × Value → List (String × List ValueType)
  | [], (key, value) => [(key, [typeOf value])]
  | (name, types) :: rest, (key, value) =>
    if name = key then (name, seen types (some value)) :: rest
    else (name, types) :: observe rest (key, value)

/-- The columns and types of a table, collected in one pass over the fields of its rows. -/
def collect (rows : List Row) : List (String × List ValueType) :=
  rows.foldl (fun listed row => row.foldl observe listed) []

theorem typesAt_append_singleton (rows : List Row) (row : Row) (column : String) :
    typesAt (rows ++ [row]) column = seen (typesAt rows column) (row.find? column) := by
  cases found : row.find? column with
  | none => simp [typesAt, valuesAt, found, seen]
  | some value =>
      have values : valuesAt (rows ++ [row]) column = valuesAt rows column ++ [value] := by
        simp [valuesAt, found]
      rw [typesAt, values, List.map_append, List.map_singleton, eraseDups_append_singleton, seen]
      simp only [typesAt, List.mem_eraseDups]

/-- One more field changes the types of its own column, which is new if it was not listed. -/
theorem observe_listed
    {columns : List String} (distinct : columns.Nodup) {types : String → List ValueType}
    {key : String} (unlisted : key ∉ columns → types key = []) (value : Value) :
    observe (columns.map fun column => (column, types column)) (key, value) =
      (columns ++ [key]).eraseDups.map fun column =>
        (column, if column = key then seen (types key) (some value) else types column) := by
  rw [eraseDups_append_singleton, eraseDups_of_nodup distinct]
  induction columns with
  | nil => simp [observe, seen, unlisted]
  | cons column rest inRest =>
      rcases List.nodup_cons.1 distinct with ⟨absent, distinctRest⟩
      rw [List.map_cons, observe]
      by_cases same : column = key
      · subst same
        have others : ∀ other ∈ rest,
            (if other = column then seen (types column) (some value) else types other) =
              types other := by
          intro other member
          apply if_neg
          rintro rfl
          exact absent member
        simp +contextual [others]
      · have unlistedInRest : key ∉ rest → types key = [] := by
          intro notInRest
          apply unlisted
          rw [List.mem_cons, not_or]
          exact ⟨Ne.symm same, notInRest⟩
        rw [if_neg same, inRest distinctRest unlistedInRest]
        by_cases listed : key ∈ rest
        · simp [listed, same]
        · simp [listed, same, Ne.symm same]

/-- The fields of a row bring up columns behind those that are listed, and a type each. -/
theorem foldl_observe
    {row : Row} (fields : row.keys.Nodup) {columns : List String} (distinct : columns.Nodup)
    {types : String → List ValueType}
    (unlisted : ∀ column, column ∉ columns → types column = []) :
    row.foldl observe (columns.map fun column => (column, types column)) =
      (columns ++ row.keys).eraseDups.map fun column =>
        (column, seen (types column) (row.find? column)) := by
  induction row generalizing columns types with
  | nil => simp [Row.keys, Row.find?, seen, eraseDups_of_nodup distinct]
  | cons field rest inRest =>
      rcases field with ⟨key, value⟩
      have distinctFields : key ∉ Row.keys rest ∧ (Row.keys rest).Nodup :=
        List.nodup_cons.1 fields
      rw [List.foldl_cons, observe_listed distinct (unlisted key),
        inRest distinctFields.2 (nodup_eraseDups _)]
      · have names : columns ++ Row.keys ((key, value) :: rest) =
            columns ++ [key] ++ Row.keys rest := by
          simp [Row.keys]
        rw [names, eraseDups_append_left]
        apply List.map_congr_left
        intro column _
        by_cases isKey : column = key
        · subst isKey
          have nowhereElse : Row.find? rest column = none :=
            Row.find?_eq_none_iff.2 distinctFields.1
          have found : Row.find? ((column, value) :: rest) column = some value :=
            List.lookup_cons_self
          rw [if_pos rfl, nowhereElse, found, seen]
        · have found : Row.find? ((key, value) :: rest) column = Row.find? rest column := by
            simp [Row.find?, List.lookup_cons, beq_false_of_ne isKey]
          rw [if_neg isKey, found]
      · intro column notListed
        rw [List.mem_eraseDups, List.mem_append, List.mem_singleton, not_or] at notListed
        rw [if_neg notListed.2]
        exact unlisted column notListed.1

/-- One more row. -/
theorem infer_append_singleton (rows : List Row) {row : Row} (fields : row.keys.Nodup) :
    infer (rows ++ [row]) = row.foldl observe (infer rows) := by
  have unlisted (column : String) (absent : column ∉ Output.columns rows) :
      typesAt rows column = [] := by
    apply List.eq_nil_iff_forall_not_mem.2
    intro type listed
    rcases mem_typesAt_iff.1 listed with ⟨row, member, value, found, _⟩
    apply absent
    apply Output.mem_columns_iff.2
    refine ⟨row, member, ?_⟩
    by_contra noField
    cases found.symm.trans (Row.find?_eq_none_iff.2 noField)
  have columns : Output.columns (rows ++ [row]) = (Output.columns rows ++ row.keys).eraseDups := by
    simp [Output.columns]
  rw [infer, infer, foldl_observe fields (Output.nodup_columns rows) unlisted, columns]
  simp only [typesAt_append_singleton]

/-- One pass over a table collects its columns and their types. -/
theorem infer_eq_collect
    {rows : List Row} (fields : ∀ row ∈ rows, row.keys.Nodup) : infer rows = collect rows := by
  -- The rows that were read are the ones before, so the induction goes from the end.
  induction rows using List.reverseRec with
  | nil => rfl
  | append_singleton rows row before =>
      have fieldsBefore : ∀ row ∈ rows, row.keys.Nodup :=
        fun row member => fields row (List.mem_append_left _ member)
      have fieldsOfRow : row.keys.Nodup := fields row (by simp)
      calc
        infer (rows ++ [row]) = row.foldl observe (collect rows) := by
          rw [infer_append_singleton rows fieldsOfRow, before fieldsBefore]
        _ = collect (rows ++ [row]) := by
          simp [collect]

/-! ## Schemas -/

/-- A property lists types: by a name alone if there is one type, and by a list of names otherwise. -/
inductive Lists : Value → List ValueType → Prop where
  | one (type : ValueType) : Lists (.obj [("type", .str type.name)]) [type]
  | several {types : List ValueType} :
      types.length ≠ 1 → Lists (.obj [("type", .ofStrings (types.map ValueType.name))]) types

theorem lists_propertyType (types : List ValueType) :
    Lists (.obj [("type", propertyType types)]) types := by
  match types with
  | [] => exact .several (by simp)
  | [type] => exact .one type
  | first :: second :: rest => exact .several (by simp)

theorem Lists.plain_iff
    {property : Value} {types : List ValueType} (lists : Lists property types) :
    (∃ name, Pointer.resolve property "/type" = some (.str name)) ↔ types.length = 1 := by
  have found (value : Value) : Pointer.resolve (.obj [("type", value)]) "/type" = some value := rfl
  cases lists with
  | one type => simp [found]
  | several more => simp [found, more, Value.ofStrings]

/-- A property describes a column of a table: it lists the types of the values that the rows have there,
each of them once, in the order of the rows that bring them up. It does so by a name alone exactly if all
of these values have one type. -/
structure Describes (rows : List Row) (column : String) (property : Value)
    (types : List ValueType) : Prop where
  lists : Lists property types
  mem_iff : ∀ type, type ∈ types ↔
    ∃ row ∈ rows, ∃ value, row.find? column = some value ∧ typeOf value = type
  nodup : types.Nodup
  ordered : types.Pairwise fun type later =>
    firstRow rows column type < firstRow rows column later
  plain_iff : (∃ name, Pointer.resolve property "/type" = some (.str name)) ↔
    ∃ type, ∀ row ∈ rows, ∀ value, row.find? column = some value → typeOf value = type

/-- A column has one type if all of its values share it. -/
theorem length_typesAt_eq_one_iff
    {rows : List Row} {column : String} (isColumn : column ∈ Output.columns rows) :
    (typesAt rows column).length = 1 ↔
      ∃ type, ∀ row ∈ rows, ∀ value, row.find? column = some value → typeOf value = type := by
  constructor
  · intro one
    rcases List.length_eq_one_iff.1 one with ⟨type, only⟩
    refine ⟨type, ?_⟩
    intro row member value found
    have listed : typeOf value ∈ typesAt rows column :=
      mem_typesAt_iff.2 ⟨row, member, value, found, rfl⟩
    rw [only] at listed
    exact List.mem_singleton.1 listed
  · rintro ⟨type, shared⟩
    have only : ∀ other ∈ typesAt rows column, other = type := by
      intro other listed
      rcases mem_typesAt_iff.1 listed with ⟨row, member, value, found, rfl⟩
      exact shared row member value found
    rcases Output.mem_columns_iff.1 isColumn with ⟨row, member, isKey⟩
    cases found : row.find? column with
    | none => exact absurd isKey (Row.find?_eq_none_iff.1 found)
    | some value =>
        have listed : type ∈ typesAt rows column :=
          mem_typesAt_iff.2 ⟨row, member, value, found, shared row member value found⟩
        apply List.length_eq_one_iff.2
        refine ⟨type, ?_⟩
        by_contra notAlone
        rcases ((nodup_typesAt rows column).ne_singleton_iff type).1 notAlone with
          none | ⟨other, otherListed, different⟩
        · exact List.ne_nil_of_mem listed none
        · exact different (only other otherListed)

/--
The properties of the schema of a table are the columns of the table, in their order, and each property
describes its column. Rows that come later only add columns, and types to a column, behind those that are
there. If no row repeats a name, one pass over the table collects all of this.
-/
theorem document_describes (rows : List Row) :
    (∃ properties : Row,
      Pointer.resolve (document rows) "/items/properties" = some (.obj properties) ∧
        properties.keys = Output.columns rows ∧
          ∀ column property, (column, property) ∈ properties →
            Describes rows column property (typesAt rows column)) ∧
      (∀ more, Output.columns rows <+: Output.columns (rows ++ more) ∧
        ∀ column, typesAt rows column <+: typesAt (rows ++ more) column) ∧
      ((∀ row ∈ rows, row.keys.Nodup) → infer rows = collect rows) := by
  refine ⟨⟨_, rfl, ?_, ?_⟩, ?_, infer_eq_collect⟩
  · simp [Row.keys, infer, Function.comp_def]
  · intro column property member
    rcases List.mem_map.1 member with ⟨listed, isListed, same⟩
    rcases List.mem_map.1 isListed with ⟨named, isColumn, rfl⟩
    rcases Prod.mk.inj same with ⟨rfl, rfl⟩
    have lists := lists_propertyType (typesAt rows named)
    exact
      { lists := lists
        mem_iff := fun _ => mem_typesAt_iff
        nodup := nodup_typesAt rows named
        ordered := pairwise_typesAt rows named
        plain_iff := lists.plain_iff.trans (length_typesAt_eq_one_iff isColumn) }
  · intro more
    exact ⟨columns_isPrefix_append rows more, typesAt_isPrefix_append rows more⟩

/-- Prices of two types and labels that are null in between. -/
theorem document_describes_prices :
    let rows : List Row :=
      [[("price", .ofInt 1), ("label", .str "x")], [("price", .num (.float 2.5)), ("label", .null)],
        [("price", .ofInt 4), ("stock", .ofInt 0)]]
    (∀ row ∈ rows, row.keys.Nodup) ∧
      infer rows = collect rows ∧
        Output.columns rows = ["price", "label", "stock"] ∧
          typesAt rows "price" = [.integer, .number] ∧ typesAt rows "label" = [.string, .null] := by
  intro rows
  have fields : ∀ row ∈ rows, row.keys.Nodup := by decide
  exact ⟨fields, (document_describes rows).2.2 fields, by decide, by decide +kernel, by decide⟩

end RowPlan.Schema
