import RowPlan.Proofs.Plan.Serialization
import RowPlan.Proofs.Text.LetterCase

/-!
# The written form of a plan is a fixed point

What is read back from the written form of a plan differs from the plan in the names that are put in
lower case and in the fallbacks of null. A plan that was itself read from a value has its names in
lower case already, those of conditions at any depth too, also where no rule looks at them; and a
fallback of null is not written. So such a plan is written as it was written before.
-/

namespace RowPlan

theorem Shape.lowerText_eq_valid
    {value : Value} {name : String}
    (read : lowerText value = .valid name) :
    Text.lower name = name := by
  rcases Checked.map_eq_valid_iff.1 read with ⟨written, _, rfl⟩
  exact Text.lower_lower written

/-! ## Conditions -/

namespace Condition

mutual

/-- The operators of a condition that was read are in lower case. -/
theorem reread_of_read :
    (value : Value) → {tree : Condition} → read value = .valid tree → tree.reread = tree
  | .obj members, tree, treeRead => by
      rw [read] at treeRead
      rcases Shape.Checked.both_eq_valid_iff.1 treeRead with ⟨ofItems, items, sides, itemsRead, rfl⟩
      rcases Shape.Checked.both_eq_valid_iff.1 sides with ⟨ofRight, right, first, rightRead, rfl⟩
      rcases Shape.Checked.both_eq_valid_iff.1 first with ⟨ofLeft, left, named, leftRead, rfl⟩
      rcases Shape.Checked.map_eq_valid_iff.1 named with ⟨op, opRead, rfl⟩
      rcases Shape.member_eq_valid opRead with ⟨written, nameRead⟩
      rw [reread, Shape.lowerText_eq_valid nameRead, optionalReread_of_readItems members itemsRead]
  | .null, _, treeRead => nomatch treeRead
  | .bool _, _, treeRead => nomatch treeRead
  | .num _, _, treeRead => nomatch treeRead
  | .str _, _, treeRead => nomatch treeRead
  | .arr _, _, treeRead => nomatch treeRead

theorem optionalReread_of_readItems :
    (members : Row) → {items : Option (List Condition)} →
      readItems members = .valid items → optionalReread items = items
  | [], items, itemsRead => by
      cases itemsRead
      rfl
  | (key, value) :: rest, items, itemsRead => by
      rw [readItems] at itemsRead
      split at itemsRead
      · exact optionalReread_of_readParts value (Shape.Checked.under_eq_valid_iff.1 itemsRead)
      · exact optionalReread_of_readItems rest itemsRead

theorem optionalReread_of_readParts :
    (value : Value) → {items : Option (List Condition)} →
      readParts value = .valid items → optionalReread items = items
  | .null, items, itemsRead => by
      cases itemsRead
      rfl
  | .arr values, items, itemsRead => by
      rcases Shape.Checked.map_eq_valid_iff.1 itemsRead with ⟨parts, partsRead, rfl⟩
      rw [optionalReread, partsReread_of_readAll 0 values partsRead]
  | .bool _, _, itemsRead => nomatch itemsRead
  | .num _, _, itemsRead => nomatch itemsRead
  | .str _, _, itemsRead => nomatch itemsRead
  | .obj _, _, itemsRead => nomatch itemsRead

theorem partsReread_of_readAll :
    (index : Nat) → (values : List Value) → {parts : List Condition} →
      readAll index values = .valid parts → partsReread parts = parts
  | _, [], parts, partsRead => by
      cases partsRead
      rfl
  | index, value :: rest, parts, partsRead => by
      rw [readAll] at partsRead
      rcases Shape.Checked.both_eq_valid_iff.1 partsRead with ⟨cons, more, headRead, restRead, rfl⟩
      rcases Shape.Checked.map_eq_valid_iff.1 headRead with ⟨part, partRead, rfl⟩
      rw [partsReread, reread_of_read value (Shape.Checked.under_eq_valid_iff.1 partRead),
        partsReread_of_readAll (index + 1) rest restRead]

end

end Condition

/-! ## Parts of steps -/

theorem MapSpec.toValue_forgetNull (spec : MapSpec) : spec.forgetNull.toValue = spec.toValue := by
  rcases spec with ⟨source, target, mapping, fallback⟩
  cases fallback with
  | none => rfl
  | some value => cases value <;> rfl

theorem MetricSpec.reread_of_read
    {value : Value} {metric : MetricSpec}
    (metricRead : read value = .valid metric) :
    metric.reread = metric := by
  cases value with
  | obj members =>
      change Shape.Checked.both _ _ = _ at metricRead
      rcases Shape.Checked.both_eq_valid_iff.1 metricRead with ⟨ofExpr, expr, first, _, rfl⟩
      rcases Shape.Checked.both_eq_valid_iff.1 first with ⟨ofField, field, named, _, rfl⟩
      rcases Shape.Checked.both_eq_valid_iff.1 named with ⟨ofFunction, function, target, read, rfl⟩
      rcases Shape.Checked.map_eq_valid_iff.1 target with ⟨name, _, rfl⟩
      rcases Shape.member_eq_valid read with ⟨written, functionRead⟩
      rw [reread, Shape.lowerText_eq_valid functionRead]
  | _ => cases metricRead

theorem Filter.reread_of_read
    {value : Value} {filter : Filter}
    (filterRead : read value = .valid filter) :
    filter.reread = filter := by
  unfold read at filterRead
  split at filterRead
  · cases filterRead
    rfl
  · split at filterRead
    · rename_i tree treeRead
      cases filterRead
      have readBack := Condition.reread_of_read _ (Shape.Checked.under_eq_valid_iff.1 treeRead)
      rw [reread, readBack]
    · cases filterRead

theorem readDirection_eq_valid
    {value : Value} {direction : String}
    (read : readDirection value = .valid direction) :
    Text.lower direction = direction := by
  unfold readDirection at read
  split at read
  · cases read
    exact lower_direction (Or.inl rfl)
  · exact Shape.lowerText_eq_valid read

/-! ## Steps and plans -/

theorem Step.toValue_reread_of_readMembers
    {op : String} {members : Row} {step : Step}
    (stepRead : readMembers op members = .valid step) :
    step.reread.toValue = step.toValue := by
  unfold readMembers at stepRead
  split at stepRead
  case h_2 =>
      rcases Shape.Checked.map_eq_valid_iff.1 stepRead with ⟨condition, conditionRead, rfl⟩
      rcases Shape.memberOr_eq_valid conditionRead with rfl | ⟨value, read⟩
      · rfl
      · rcases Shape.optional_eq_valid read with rfl | ⟨filter, filterRead, rfl⟩
        · rfl
        · rw [Step.reread, Option.map_some, Filter.reread_of_read filterRead]
  case h_4 =>
      rcases Shape.Checked.map_eq_valid_iff.1 stepRead with ⟨specs, _, rfl⟩
      change Value.obj [_, ("map", .arr ((specs.map MapSpec.forgetNull).map (·.toValue)))] = _
      rw [List.map_map, List.map_congr_left fun spec _ => spec.toValue_forgetNull]
      rfl
  case h_5 =>
      rcases Shape.Checked.both_eq_valid_iff.1 stepRead with
        ⟨ofDirection, direction, first, directionRead, rfl⟩
      rcases Shape.Checked.map_eq_valid_iff.1 first with ⟨name, _, rfl⟩
      rcases Shape.memberOr_eq_valid directionRead with rfl | ⟨value, read⟩
      · rw [Step.reread, lower_direction (Or.inl rfl)]
      · rw [Step.reread, readDirection_eq_valid read]
  case h_7 =>
      rcases Shape.Checked.map_eq_valid_iff.1 stepRead with ⟨metrics, metricsRead, rfl⟩
      have lowered : ∀ metric ∈ metrics, metric.reread = metric := by
        intro metric member
        rcases Shape.exists_read_of_mem_array metricsRead member with ⟨value, read⟩
        exact MetricSpec.reread_of_read read
      rw [Step.reread, List.map_congr_left lowered, List.map_id']
  -- The other operations have no names that are put in lower case and no fallbacks.
  all_goals
    rcases Shape.Checked.map_eq_valid_iff.1 stepRead with ⟨parts, _, rfl⟩
    rfl

theorem Step.toValue_reread_of_read
    {value : Value} {step : Step}
    (stepRead : read value = .valid step) :
    step.reread.toValue = step.toValue := by
  unfold read at stepRead
  split at stepRead
  · split at stepRead
    · exact toValue_reread_of_readMembers (Shape.Checked.under_eq_valid_iff.1 stepRead)
    · cases stepRead
  · cases stepRead

theorem Plan.exists_read_of_mem_steps
    {value : Value} {plan : Plan} (planRead : read value = .ok plan)
    {step : Step} (member : step ∈ plan.steps) :
    ∃ written, Step.read written = .valid step := by
  rcases Plan.read_eq_ok_iff.1 planRead with ⟨members, _, _, membersRead⟩
  rcases Shape.Checked.both_eq_valid_iff.1 membersRead with ⟨ofSteps, steps, ofSource, stepsRead, rfl⟩
  rcases Shape.Checked.both_eq_valid_iff.1 ofSource with ⟨ofPath, path, version, _, rfl⟩
  rcases Shape.Checked.map_eq_valid_iff.1 version with ⟨name, _, rfl⟩
  rcases Shape.memberOr_eq_valid stepsRead with rfl | ⟨value, read⟩
  · cases member
  · cases value with
    | arr values => exact Shape.exists_read_of_mem_items read member
    | null =>
        cases read
        cases member
    | _ => cases read

theorem Plan.toValue_reread_of_read
    {value : Value} {plan : Plan} (planRead : read value = .ok plan) :
    plan.reread.toValue = plan.toValue := by
  have written : (plan.steps.map Step.reread).map Step.toValue = plan.steps.map Step.toValue := by
    rw [List.map_map]
    apply List.map_congr_left
    intro step member
    rcases exists_read_of_mem_steps planRead member with ⟨value, stepRead⟩
    exact Step.toValue_reread_of_read stepRead
  rw [toValue, toValue, reread, written]

/--
The written form of a loaded plan is a fixed point of reading and writing. It can be read and is
accepted by the rules again, and the plan that is read back has the same written form: the same
members in the same order, with the same null operands and the same literals and mappings.
-/
theorem Plan.written_form_fixed
    (value : Value) (plan : Plan)
    (loaded : Plan.load value = .ok plan) :
    ∃ again,
      Plan.parse plan.toValue = .ok again ∧
      Plan.load plan.toValue = .ok again ∧
      again.toValue = plan.toValue := by
  rcases (Plan.load_eq_ok_iff value plan).1 loaded with ⟨planRead, valid⟩
  have readBack : Plan.read plan.toValue = .ok plan.reread := plan.read_toValue
  refine ⟨plan.reread, ?_, valid.load_toValue, toValue_reread_of_read planRead⟩
  rw [Plan.parse, readBack]
  rfl

/-- A plan with operators in capitals, null operands, parts where a comparison has none, a mapping
to null and a fallback of null. -/
theorem Plan.written_form_fixed_capitals :
    let value : Value :=
      .obj [("steps", .arr [
        .obj [("op", .str "filter"),
          ("where", .obj [("right", .null), ("op", .str "EQ"),
            ("left", .obj [("field", .str "a"), ("b", .null)]),
            ("items", .arr [.obj [("left", .null), ("op", .str "XoR")]])])],
        .obj [("op", .str "mapValue"),
          ("map", .arr [.obj [("as", .str "b"), ("from", .str "a"),
            ("mapping", .obj [("x", .null)]), ("default", .null)]])]])]
    let written : Value :=
      .obj [("planVersion", .str "1.0"), ("source", .obj [("recordPath", .str "/")]),
        ("steps", .arr [
          .obj [("op", .str "filter"),
            ("where", .obj [("op", .str "eq"), ("left", .obj [("field", .str "a"), ("b", .null)]),
              ("items", .arr [.obj [("op", .str "xor"), ("left", .null)]]), ("right", .null)])],
          .obj [("op", .str "mapValue"),
            ("map", .arr [.obj [("from", .str "a"), ("as", .str "b"),
              ("mapping", .obj [("x", .null)])]])]])]
    ∃ plan,
      Plan.load value = .ok plan ∧
      plan.toValue = written ∧
      ∃ again,
        Plan.parse plan.toValue = .ok again ∧
        Plan.load plan.toValue = .ok again ∧
        again.toValue = plan.toValue := by
  intro value written
  have given : ∃ plan, Plan.load value = .ok plan ∧ plan.toValue = written := ⟨_, by rfl, by rfl⟩
  rcases given with ⟨plan, loaded, form⟩
  exact ⟨plan, loaded, form, Plan.written_form_fixed value plan loaded⟩

end RowPlan
