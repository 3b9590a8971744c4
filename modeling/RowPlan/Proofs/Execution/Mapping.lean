import RowPlan.Proofs.Execution.RowByRow
import RowPlan.Proofs.Value.Sameness

/-!
# Mapped fields

A step that maps fields reads all of them from the row as it was, also where one field is written under
the name that another one is read from. So the fields do not wait for each other, and in which order they
are listed matters only for the places of those that the row did not have: under every name, the row is
given the same value.

This needs the targets of a step to be different, which the plan rules ask for. Where two fields had the
same target, the last one would win. A value whose text is lacking stops the step in every order.
-/

namespace RowPlan

open StepResult

/-! ## What becomes of a row -/

/-- A row that fields of another row were mapped to. Every field has the value that its table holds for
the text of what it reads from the old row; without such an entry it has its fallback, and without a
fallback the value that it reads. All other fields keep their places and values. -/
structure Row.MappedFrom (specs : List MapSpec) (sample row image : Row) : Prop where
  shown : ∀ spec ∈ specs, ∃ text, (spec.sourceValue sample row).display = .ok text
  entry : ∀ spec ∈ specs, ∀ text value, (spec.sourceValue sample row).display = .ok text →
    spec.mapping.find? text = some value → image.find? spec.target = some value
  fallback : ∀ spec ∈ specs, ∀ text value, (spec.sourceValue sample row).display = .ok text →
    spec.mapping.find? text = none → spec.fallback = some value →
      image.find? spec.target = some value
  unchanged : ∀ spec ∈ specs, ∀ text, (spec.sourceValue sample row).display = .ok text →
    spec.mapping.find? text = none → spec.fallback = none →
      image.find? spec.target = some (spec.sourceValue sample row)
  others : Row.SameApartFrom (specs.map (·.target)) row image

theorem Row.sameApartFrom_setAll
    {names : List String} {fields : List (String × Value)}
    (listed : ∀ field ∈ fields, field.1 ∈ names) (row : Row) :
    Row.SameApartFrom names row (row.setAll fields) := by
  induction fields generalizing row with
  | nil => exact fun _ _ _ _ => Iff.rfl
  | cons field rest later =>
      rw [List.forall_mem_cons] at listed
      intro i key value absent
      have first := sameApartFrom_set listed.1 row field.2
      exact (first i key value absent).trans (later listed.2 _ i key value absent)

/-- The value that a field is mapped to, if the value that it reads has a text. -/
theorem StepResult.mapped_eq_ok_iff {spec : MapSpec} {value image : Value} :
    mapped spec value = .ok image ↔
      ∃ text, value.display = .ok text ∧
        (match spec.mapping.find? text with
        | some entry => entry
        | none => spec.fallback.getD value) = image := by
  rw [mapped, Outcome.bind_eq_ok_iff]
  apply exists_congr
  intro text
  apply and_congr_right
  intro _
  exact iff_of_eq (Except.ok.injEq _ _)

theorem StepResult.mappedFrom_mapRow
    {specs : List MapSpec} (distinct : (specs.map (·.target)).Nodup) {sample row image : Row}
    (made : mapRow (resolveSpecs specs sample) row = .ok image) :
    Row.MappedFrom specs sample row image := by
  have found (spec : MapSpec) (member : spec ∈ specs) :
      ∃ text, (spec.sourceValue sample row).display = .ok text ∧
        image.find? spec.target = some (match spec.mapping.find? text with
          | some entry => entry
          | none => spec.fallback.getD (spec.sourceValue sample row)) := by
    rcases find?_mapRow distinct made member with ⟨value, valueMade, isThere⟩
    rcases mapped_eq_ok_iff.1 valueMade with ⟨text, shown, rfl⟩
    exact ⟨text, shown, isThere⟩
  constructor
  case shown =>
    intro spec member
    rcases found spec member with ⟨text, shown, _⟩
    exact ⟨text, shown⟩
  case entry =>
    intro spec member text value shown listed
    rcases found spec member with ⟨other, otherShown, isThere⟩
    cases otherShown.symm.trans shown
    rw [isThere, listed]
  case fallback =>
    intro spec member text value shown unlisted given
    rcases found spec member with ⟨other, otherShown, isThere⟩
    cases otherShown.symm.trans shown
    rw [isThere, unlisted, given]
    rfl
  case unchanged =>
    intro spec member text shown unlisted notGiven
    rcases found spec member with ⟨other, otherShown, isThere⟩
    cases otherShown.symm.trans shown
    rw [isThere, unlisted, notGiven]
    rfl
  case others =>
    rw [mapRow_eq_setAll] at made
    rcases Outcome.map_eq_ok_iff.1 made with ⟨fields, fieldsMade, rfl⟩
    apply Row.sameApartFrom_setAll
    intro field member
    rw [← names_of_mapFields fieldsMade]
    exact List.mem_map_of_mem member

/-! ## Values that are well-formed -/

/-- A mapped field whose table and fallback hold well-formed values. -/
structure MapSpec.WellFormed (spec : MapSpec) : Prop where
  entries : ∀ entry ∈ spec.mapping, entry.2.WellFormed
  fallback : ∀ value, spec.fallback = some value → value.WellFormed

theorem MapSpec.WellFormed.mapped
    {spec : MapSpec} (wellFormed : spec.WellFormed) {value image : Value}
    (valueFormed : value.WellFormed) (made : StepResult.mapped spec value = .ok image) :
    image.WellFormed := by
  rcases mapped_eq_ok_iff.1 made with ⟨text, _, rfl⟩
  split
  · rename_i found
    exact wellFormed.entries _ (mem_of_lookup_eq_some found)
  · cases given : spec.fallback with
    | none => exact valueFormed
    | some value => exact wellFormed.fallback value given

theorem StepResult.wellFormed_mapRow
    {specs : List MapSpec} (specsFormed : ∀ spec ∈ specs, spec.WellFormed) {sample row image : Row}
    (wellFormed : row.WellFormed) (made : mapRow (resolveSpecs specs sample) row = .ok image) :
    image.WellFormed := by
  rw [mapRow_eq_setAll] at made
  rcases Outcome.map_eq_ok_iff.1 made with ⟨fields, fieldsMade, rfl⟩
  apply wellFormed.setAll
  intro field member
  rcases Outcome.exists_of_mem_mapM fieldsMade member with ⟨spec, specMember, fieldMade⟩
  rcases Outcome.map_eq_ok_iff.1 fieldMade with ⟨value, valueMade, rfl⟩
  exact (specsFormed spec specMember).mapped (Field.wellFormed_readOrNull wellFormed _) valueMade

/-! ## Reordering -/

section Reordered

variable {specs others : List MapSpec} (reordered : specs.Perm others)

include reordered

theorem StepResult.find?_mapRow_of_perm
    (distinct : (specs.map (·.target)).Nodup) {sample row image image' : Row}
    (made : mapRow (resolveSpecs specs sample) row = .ok image)
    (made' : mapRow (resolveSpecs others sample) row = .ok image') (key : String) :
    image.find? key = image'.find? key := by
  rw [mapRow_eq_setAll] at made made'
  rcases Outcome.map_eq_ok_iff.1 made with ⟨fields, fieldsMade, rfl⟩
  rcases Outcome.map_eq_ok_iff.1 made' with ⟨fields', fieldsMade', rfl⟩
  rcases Outcome.mapM_perm reordered fieldsMade with ⟨more, moreMade, fieldsReordered⟩
  cases fieldsMade'.symm.trans moreMade
  refine Row.find?_setAll_of_perm ?_ fieldsReordered row key
  rw [names_of_mapFields fieldsMade]
  exact distinct

theorem StepResult.equal_mapRow_of_perm
    (distinct : (specs.map (·.target)).Nodup) (specsFormed : ∀ spec ∈ specs, spec.WellFormed)
    {sample row image image' : Row} (wellFormed : row.WellFormed)
    (made : mapRow (resolveSpecs specs sample) row = .ok image)
    (made' : mapRow (resolveSpecs others sample) row = .ok image') :
    Value.equal (.obj image) (.obj image') = true := by
  have othersFormed : ∀ spec ∈ others, spec.WellFormed := fun spec member =>
    specsFormed spec (reordered.mem_iff.2 member)
  have imageFormed := wellFormed_mapRow specsFormed wellFormed made
  have otherFormed := wellFormed_mapRow othersFormed wellFormed made'
  exact imageFormed.equal_of_find?_eq ((Value.wellFormed_obj_iff _).1 otherFormed).1
    (find?_mapRow_of_perm reordered distinct made made')

/-- Where a step comes to a text that is lacking does not depend on the order of its fields. -/
theorem Step.stops_mapValue_of_perm (state : State) :
    (Step.mapValue others).Stops state ↔ (Step.mapValue specs).Stops state := by
  simp only [Step.Stops, reordered.mem_iff]

theorem StepResult.mapNotes_of_perm (rows : List Row) :
    (mapNotes specs rows).Perm (mapNotes others rows) := by
  rw [mapNotes, mapNotes]
  split
  · exact .refl _
  · exact (reordered.map _).filterMap _

end Reordered

/--
The fields of a mapping step act at once: each is read from the row as it was, and all fields that are no
target of the step are left as they were. In whatever order the fields are listed, the step is valid and
gives rows with the same values under the same names, equal as objects, unless it is stopped for want of a
text, which it then is in every order.
-/
theorem Step.mapValue_simultaneous
    {specs others : List MapSpec} {place : String} {previous next : Option Step}
    (valid : Check.step place previous next (.mapValue specs) = .ok [])
    (reordered : specs.Perm others) :
    Check.step place previous next (.mapValue others) = .ok [] ∧
      ∀ rows groups,
        ((Step.mapValue specs).Stops ⟨rows, groups⟩ →
          (Step.mapValue specs).run ⟨rows, groups⟩ = .error (.text .tooManyDigits) ∧
            (Step.mapValue others).run ⟨rows, groups⟩ = .error (.text .tooManyDigits)) ∧
        (¬ (Step.mapValue specs).Stops ⟨rows, groups⟩ →
          ∃ images images' notes notes',
            (Step.mapValue specs).run ⟨rows, groups⟩ = .ok (⟨images, groups⟩, notes) ∧
              (Step.mapValue others).run ⟨rows, groups⟩ = .ok (⟨images', groups⟩, notes') ∧
              notes.Perm notes' ∧
              List.Forall₂ (Row.MappedFrom specs (Records.sample rows)) rows images ∧
              List.Forall₂ (fun image image' : Row => ∀ key, image.find? key = image'.find? key)
                images images' ∧
              ((∀ row ∈ rows, row.WellFormed) → (∀ spec ∈ specs, spec.WellFormed) →
                List.Forall₂ (fun image image' => Value.equal (.obj image) (.obj image') = true)
                  images images')) := by
  have specsValid : (Step.mapValue specs).Valid previous next :=
    (Check.step_eq_nil_iff _ _ _ _).1 valid
  rcases specsValid with ⟨some, given, distinct⟩
  have othersValid : (Step.mapValue others).Valid previous next := by
    refine ⟨fun empty => some (List.perm_nil.1 (empty ▸ reordered)), ?_, ?_⟩
    · exact fun spec member => given spec (reordered.mem_iff.2 member)
    · exact (reordered.map _).nodup distinct
  refine ⟨(Check.step_eq_nil_iff _ _ _ _).2 othersValid, ?_⟩
  intro rows groups
  have fails := Step.run_fails ((Check.step_eq_nil_iff _ _ _ _).1 valid) ⟨rows, groups⟩
  have othersFail := (Step.run_fails othersValid ⟨rows, groups⟩).congr
    (Step.stops_mapValue_of_perm reordered ⟨rows, groups⟩)
  refine ⟨fun stops => ⟨fails.eq_error stops, othersFail.eq_error stops⟩, fun ends => ?_⟩
  rcases fails.succeeds_iff.2 ends with ⟨⟨_, notes⟩, ran⟩
  rcases othersFail.succeeds_iff.2 ends with ⟨⟨_, notes'⟩, ran'⟩
  rcases mapValue_eq_ok_iff.1 ran with ⟨images, made, rfl, rfl⟩
  rcases mapValue_eq_ok_iff.1 ran' with ⟨images', made', rfl, rfl⟩
  refine ⟨images, images', _, _, ran, ran', mapNotes_of_perm reordered rows, ?_, ?_, ?_⟩
  · exact (Outcome.mapM_eq_ok_iff.1 made).imp fun row image => mappedFrom_mapRow distinct
  · refine Outcome.forall₂_of_mapM made made' fun row _ image image' rowMade rowMade' => ?_
    exact find?_mapRow_of_perm reordered distinct rowMade rowMade'
  · intro rowsFormed specsFormed
    refine Outcome.forall₂_of_mapM made made' fun row member image image' rowMade rowMade' => ?_
    exact equal_mapRow_of_perm reordered distinct specsFormed (rowsFormed row member) rowMade rowMade'

/-- Two fields are exchanged, the first one by way of a table, and a third one is new. In the opposite
order the rows are the same objects: neither field reads what the other one has written. -/
theorem Step.mapValue_simultaneous_exchange :
    let first : MapSpec := ⟨"b", "a", [("x", .str "ex")], none⟩
    let second : MapSpec := ⟨"a", "b", [], none⟩
    let third : MapSpec := ⟨"B", "c", [], some .null⟩
    let rows : List Row := [[("a", .ofInt 1), ("b", .str "x")], [("a", .ofInt 3)]]
    Check.step "steps[0]" none none (.mapValue [first, second, third]) = .ok [] ∧
      [first, second, third].Perm [third, second, first] ∧
      ∃ images images' notes notes',
        (Step.mapValue [first, second, third]).run ⟨rows, none⟩ = .ok (⟨images, none⟩, notes) ∧
          (Step.mapValue [third, second, first]).run ⟨rows, none⟩ = .ok (⟨images', none⟩, notes') ∧
          List.Forall₂ (fun image image' => Value.equal (.obj image) (.obj image') = true)
            images images' ∧
          images =
            [[("a", .str "ex"), ("b", .ofInt 1), ("c", .null)],
              [("a", .null), ("b", .ofInt 3), ("c", .null)]] := by
  have evaluated :
      (Step.mapValue
          [⟨"b", "a", [("x", .str "ex")], none⟩, ⟨"a", "b", [], none⟩,
            ⟨"B", "c", [], some .null⟩]).run
        ⟨[[("a", .ofInt 1), ("b", .str "x")], [("a", .ofInt 3)]], none⟩ =
      .ok (⟨[[("a", .str "ex"), ("b", .ofInt 1), ("c", .null)],
        [("a", .null), ("b", .ofInt 3), ("c", .null)]], none⟩, [.byCase "B" "b"]) := by
    rfl
  intro first second third rows
  have valid : Check.step "steps[0]" none none (.mapValue [first, second, third]) = .ok [] := by rfl
  have reordered : [first, second, third].Perm [third, second, first] :=
    (List.reverse_perm [first, second, third]).symm
  have rowsFormed : ∀ row ∈ rows, row.WellFormed := by
    simp [rows, Row.WellFormed, Value.ofInt, or_imp, forall_and]
  have specsFormed : ∀ spec ∈ [first, second, third], spec.WellFormed := by
    simp only [List.forall_mem_cons]
    refine ⟨⟨?_, ?_⟩, ⟨?_, ?_⟩, ⟨?_, ?_⟩, ?_⟩ <;> simp [first, second, third]
  have ends : ¬ (Step.mapValue [first, second, third]).Stops ⟨rows, none⟩ :=
    (Step.run_fails ((Check.step_eq_nil_iff _ _ _ _).1 valid) ⟨rows, none⟩).succeeds_iff.1
      ⟨_, evaluated⟩
  rcases ((Step.mapValue_simultaneous valid reordered).2 rows none).2 ends with
    ⟨images, images', notes, notes', ran, ran', _, _, _, equal⟩
  refine ⟨valid, reordered, images, images', notes, notes', ran, ran',
    equal rowsFormed specsFormed, ?_⟩
  cases ran.symm.trans evaluated
  rfl

end RowPlan
