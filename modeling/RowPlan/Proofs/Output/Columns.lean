import RowPlan.Output.Column
import RowPlan.Proofs.FirstOccurrences
import RowPlan.Proofs.Json.Writing
import RowPlan.Proofs.Value.Row

/-!
# Columns of tables

The columns of a table are the field names of its rows: each of them once, in the order in which they
first occur when the rows are read one after the other. A cell holds the text of its field.
-/

namespace RowPlan.Output

open Outcome (Succeeds)

theorem mem_columns_iff {rows : List Row} {column : String} :
    column ∈ columns rows ↔ ∃ row ∈ rows, column ∈ row.keys := by
  rw [columns, List.mem_eraseDups, List.mem_flatMap]

theorem nodup_columns (rows : List Row) : (columns rows).Nodup :=
  nodup_eraseDups _

/-- The columns stand in the order in which their names first occur. -/
theorem pairwise_columns (rows : List Row) :
    (columns rows).Pairwise fun column later =>
      (rows.flatMap Row.keys).idxOf column < (rows.flatMap Row.keys).idxOf later :=
  pairwise_eraseDups _

theorem columns_ne_nil_iff {rows : List Row} :
    columns rows ≠ [] ↔ ∃ row ∈ rows, row.keys ≠ [] := by
  simp only [ne_eq, List.eq_nil_iff_forall_not_mem, mem_columns_iff]
  constructor
  · intro nonempty
    by_contra noneNamed
    apply nonempty
    rintro column ⟨row, member, isKey⟩
    apply noneNamed
    exact ⟨row, member, fun absent => absent column isKey⟩
  · rintro ⟨row, member, named⟩ noColumn
    exact named fun column isKey => noColumn column ⟨row, member, isKey⟩

/-! ## Texts of cells -/

/-- The text of a value in a cell. -/
def valueText (value : Value) : Except TextError String := cell value >>= Value.text

/-- The text of the cell of a row in a column. -/
def cellText (row : Row) (column : String) : Except TextError String :=
  cellAt row column >>= Value.text

/-- The cell of a missing field is empty, any other one has the text of its field. -/
theorem cellText_eq (row : Row) (column : String) :
    cellText row column = (row.find? column).elim (.ok "") valueText := by
  rw [cellText, cellAt]
  cases row.find? column <;> rfl

theorem succeeds_itemText_iff (value : Value) : Succeeds (itemText value) ↔ value.Writable := by
  cases value with
  | null => exact iff_of_true (Outcome.succeeds_ok _) .null
  | bool b => exact iff_of_true (Outcome.succeeds_ok _) (.bool b)
  | num n => exact Value.succeeds_text_iff (.num n)
  | str s => exact Value.succeeds_text_iff (.str s)
  | arr items => exact Value.succeeds_text_iff (.arr items)
  | obj members => exact Value.succeeds_text_iff (.obj members)

/-- A text in a cell is its own text. -/
theorem succeeds_map_str_bind_text_iff (outcome : Except TextError String) :
    Succeeds (outcome.map Value.str >>= Value.text) ↔ Succeeds outcome := by
  cases outcome with
  | ok text => exact iff_of_true (Outcome.succeeds_ok _) (Outcome.succeeds_ok _)
  | error error => exact iff_of_false (Outcome.not_succeeds_error _) (Outcome.not_succeeds_error _)

/-- A value has a text in a cell if and only if it can be written. -/
theorem succeeds_valueText_iff (value : Value) : Succeeds (valueText value) ↔ value.Writable := by
  rw [valueText]
  cases value with
  | null => exact iff_of_true (Outcome.succeeds_ok _) .null
  | bool b => exact iff_of_true (Outcome.succeeds_ok _) (.bool b)
  | num n => exact Value.succeeds_text_iff (.num n)
  | str s => exact Value.succeeds_text_iff (.str s)
  | arr items =>
      rw [cell]
      split
      · have listed :
            (items.mapM itemText >>= fun texts => .ok (Value.str (", ".intercalate texts))) =
              ((items.mapM itemText).map (", ".intercalate ·)).map Value.str := by
          cases items.mapM itemText <;> rfl
        rw [listed, succeeds_map_str_bind_text_iff, Outcome.succeeds_map_iff,
          Outcome.succeeds_mapM_iff, Value.writable_arr_iff]
        simp only [succeeds_itemText_iff]
      · rw [succeeds_map_str_bind_text_iff, Json.succeeds_write_iff]
  | obj members => rw [cell, succeeds_map_str_bind_text_iff, Json.succeeds_write_iff]

theorem succeeds_cellText_iff (row : Row) (column : String) :
    Succeeds (cellText row column) ↔
      ∀ value, row.find? column = some value → value.Writable := by
  rw [cellText_eq]
  cases row.find? column with
  | none => simp
  | some value => simpa using succeeds_valueText_iff value

end RowPlan.Output
