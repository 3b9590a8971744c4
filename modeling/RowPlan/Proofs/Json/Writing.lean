import RowPlan.Json.Writer
import RowPlan.Proofs.Value.Writable

/-!
# Writing JSON

A value has a JSON text if and only if it can be written, on one line as well as indented. An indented text is
written piece by piece, and has come to its end exactly if every piece has.
-/

namespace RowPlan

open Outcome (Succeeds)

/-! ## Drafts -/

namespace Draft

/-- Drafts that have come to their end. -/
def Ended (draft : Draft) : Prop := draft.stop = none

@[simp]
theorem ended_piece (text : String) : (piece text).Ended := rfl

@[simp]
theorem ended_ofText_iff (outcome : Except TextError String) :
    (ofText outcome).Ended ↔ Succeeds outcome := by
  cases outcome <;> simp [ofText, piece, Ended]

@[simp]
theorem ended_append_iff (first second : Draft) :
    (first ++ second).Ended ↔ first.Ended ∧ second.Ended := by
  change (first.append second).stop = none ↔ first.stop = none ∧ second.stop = none
  rw [append]
  cases stopped : first.stop <;> simp [stopped]

theorem succeeds_toText_iff (draft : Draft) : Succeeds draft.toText ↔ draft.Ended := by
  rw [toText, Ended]
  cases draft.stop <;> simp

/-- A draft that goes on has the texts of both parts. -/
theorem text_append {first : Draft} (ended : first.Ended) (second : Draft) :
    (first ++ second).text = first.text ++ second.text := by
  change (first.append second).text = _
  rw [append, ended]

theorem toText_eq_ok_iff {draft : Draft} {text : String} :
    draft.toText = .ok text ↔ draft.Ended ∧ draft.text = text := by
  rw [toText, Ended]
  cases draft.stop <;> simp

@[simp]
theorem toText_piece (text : String) : (piece text).toText = .ok text := rfl

@[simp]
theorem toText_ofText (outcome : Except TextError String) : (ofText outcome).toText = outcome := by
  cases outcome <;> rfl

/-- A draft that goes on comes to its end if both parts do, with the texts of both. -/
theorem toText_append_eq_ok_iff {first second : Draft} {text : String} :
    (first ++ second).toText = .ok text ↔
      ∃ before after, first.toText = .ok before ∧ second.toText = .ok after ∧ before ++ after = text := by
  simp only [toText_eq_ok_iff, ended_append_iff]
  constructor
  · rintro ⟨⟨firstEnded, secondEnded⟩, same⟩
    exact ⟨_, _, ⟨firstEnded, rfl⟩, ⟨secondEnded, rfl⟩, (text_append firstEnded second).symm.trans same⟩
  · rintro ⟨_, _, ⟨firstEnded, rfl⟩, ⟨secondEnded, rfl⟩, same⟩
    exact ⟨⟨firstEnded, secondEnded⟩, (text_append firstEnded second).trans same⟩

end Draft

/-! ## Values -/

namespace Json

theorem succeeds_writeNumber_iff (n : Number) : Succeeds (writeNumber n) ↔ n.Writable := by
  cases n with
  | int n => exact Decimal.succeeds_writeInteger_iff
  | float x => exact iff_of_true (Outcome.succeeds_ok _) trivial

theorem writeItems_eq_mapM (items : List Value) : writeItems items = items.mapM write := by
  induction items with
  | nil => rfl
  | cons item rest later => rw [writeItems, List.mapM_cons, later]; rfl

theorem writeMembers_eq_mapM (members : List (String × Value)) :
    writeMembers members =
      members.mapM fun member => (write member.2).map fun text =>
        writeString member.1 ++ ": " ++ text := by
  induction members with
  | nil => rfl
  | cons member rest later =>
      rw [writeMembers, List.mapM_cons, later]
      cases write member.2 <;> rfl

theorem renders_write : Value.Renders write where
  plain value notNumber notArray notObject := by
    cases value with
    | num n => exact absurd rfl (notNumber n)
    | arr items => exact absurd rfl (notArray items)
    | obj members => exact absurd rfl (notObject members)
    | _ => exact Outcome.succeeds_ok _
  number := succeeds_writeNumber_iff
  array items := by
    rw [write, writeItems_eq_mapM, Outcome.succeeds_bind_ok_iff, Outcome.succeeds_mapM_iff]
  object members := by
    rw [write, writeMembers_eq_mapM, Outcome.succeeds_bind_ok_iff, Outcome.succeeds_mapM_iff]
    simp only [Outcome.succeeds_map_iff]

theorem succeeds_write_iff (value : Value) : Succeeds (write value) ↔ value.Writable :=
  renders_write.succeeds_iff value

/-- What leads to an item does not keep it from being written. -/
theorem ended_leadTo_iff
    (lead : String) {item : Value} {written : Draft} (ended : written.Ended ↔ item.Writable) :
    (leadTo lead item written).Ended ↔ item.Writable := by
  cases item with
  | num n => simp [leadTo, succeeds_writeNumber_iff]
  | _ => simpa [leadTo] using ended

mutual

/-- An indented text comes to its end if and only if the value can be written. -/
theorem ended_writeIndented_iff (indent level : Nat) :
    ∀ value, (writeIndented indent level value).Ended ↔ value.Writable
  | .null => iff_of_true rfl .null
  | .bool b => iff_of_true rfl (.bool b)
  | .num n => by
    rw [writeIndented, Draft.ended_ofText_iff, succeeds_writeNumber_iff, Value.writable_num_iff]
  | .str s => iff_of_true rfl (.str s)
  | .arr items => by
    rw [writeIndented, Value.writable_arr_iff]
    split
    · rename_i none
      simp [List.isEmpty_iff.1 none]
    · simp [ended_writeIndentedItems_iff indent (level + 1) _ items]
  | .obj members => by
    rw [writeIndented, Value.writable_obj_iff]
    split
    · rename_i none
      simp [List.isEmpty_iff.1 none]
    · simp [ended_writeIndentedMembers_iff indent (level + 1) _ members]

theorem ended_writeIndentedItems_iff (indent level : Nat) (lead : String) :
    ∀ items,
      (writeIndentedItems indent level lead items).Ended ↔ ∀ item ∈ items, item.Writable
  | [] => by simp [writeIndentedItems]
  | item :: rest => by
    rw [writeIndentedItems, Draft.ended_append_iff, List.forall_mem_cons,
      ended_leadTo_iff lead (ended_writeIndented_iff indent level item),
      ended_writeIndentedItems_iff indent level _ rest]

theorem ended_writeIndentedMembers_iff (indent level : Nat) (lead : String) :
    ∀ members,
      (writeIndentedMembers indent level lead members).Ended ↔ ∀ member ∈ members, member.2.Writable
  | [] => by simp [writeIndentedMembers]
  | (key, value) :: rest => by
    simp [writeIndentedMembers, ended_writeIndented_iff indent level value,
      ended_writeIndentedMembers_iff indent level _ rest]

end

/-- A value has a JSON text, indented or not, if and only if it can be written. -/
theorem succeeds_writeWith_iff (indent : Option Nat) (value : Value) :
    Succeeds (writeWith indent value) ↔ value.Writable := by
  cases indent with
  | none => exact succeeds_write_iff value
  | some width =>
      exact (Draft.succeeds_toText_iff _).trans (ended_writeIndented_iff width 0 value)

end Json

end RowPlan
