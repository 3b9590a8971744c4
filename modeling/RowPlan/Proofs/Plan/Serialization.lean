import RowPlan.Plan.Writer
import RowPlan.Proofs.Plan.Reading

/-!
# Reading back what was written

The written form of a plan can always be read, and one lemma for each part of a plan says what is read:
the part itself, up to two things. Names of operators, aggregate functions and directions come back in
lower case, which valid plans use anyway where it counts. And a fallback of null is not written, so that
it does not come back.

Null operands of conditions do come back, since they are written after the other members.
-/

namespace RowPlan

/-! ## What is read back -/

namespace Condition

mutual

/-- The condition that is read from the written form of a condition. -/
def reread : Condition → Condition
  | node op left right items => node (Text.lower op) left right (optionalReread items)

/-- The parts that are read back, if there are any. -/
def optionalReread : Option (List Condition) → Option (List Condition)
  | none => none
  | some items => some (partsReread items)

/-- The conditions that are read back from several ones. -/
def partsReread : List Condition → List Condition
  | [] => []
  | part :: rest => reread part :: partsReread rest

end

theorem partsReread_eq_map (items : List Condition) : partsReread items = items.map reread := by
  induction items with
  | nil => rfl
  | cons part rest later => rw [partsReread, later, List.map_cons]

end Condition

/-- A member value that is written; null is not. -/
def nonNull : Option Value → Option Value
  | some .null => none
  | value => value

/-- The mapped field without a fallback of null. -/
def MapSpec.forgetNull (spec : MapSpec) : MapSpec := { spec with fallback := nonNull spec.fallback }

/-- The aggregate that is read back. -/
def MetricSpec.reread (metric : MetricSpec) : MetricSpec :=
  { metric with function := Text.lower metric.function }

/-- The filter that is read back. -/
def Filter.reread : Filter → Filter
  | .expr text => .expr text
  | .tree condition => .tree condition.reread

/-- The step that is read back. -/
def Step.reread : Step → Step
  | .select fields => .select fields
  | .filter condition => .filter (condition.map Filter.reread)
  | .compute specs => .compute specs
  | .mapValue specs => .mapValue (specs.map MapSpec.forgetNull)
  | .sort by_ direction => .sort by_ (Text.lower direction)
  | .groupBy keys => .groupBy keys
  | .aggregate metrics => .aggregate (metrics.map MetricSpec.reread)
  | .limit count => .limit count

/-- The plan that is read from the written form of a plan. -/
def Plan.reread (plan : Plan) : Plan := { plan with steps := plan.steps.map Step.reread }

/-! ## Members -/

theorem lookup_singleton_other
    {key other : String} (different : key ≠ other) (value : Value) :
    [(other, value)].lookup key = none := by
  rw [List.lookup_cons, beq_false_of_ne different]
  rfl

theorem lookup_givenMember_same (key : String) (value : Option Value) :
    (givenMember key value).lookup key = nonNull value := by
  cases value with
  | none => rfl
  | some written => cases written <;> simp [givenMember, nonNull]

theorem lookup_givenMember_other
    {key other : String} (different : key ≠ other) (value : Option Value) :
    (givenMember other value).lookup key = none := by
  unfold givenMember
  split
  · rfl
  · rfl
  · exact lookup_singleton_other different _

theorem lookup_nullMember_other
    {key other : String} (different : key ≠ other) (value : Option Value) :
    (nullMember other value).lookup key = none := by
  unfold nullMember
  split
  · exact lookup_singleton_other different _
  · rfl

theorem givenMember_of_ne_null
    {key : String} {value : Value} (given : value ≠ .null) :
    givenMember key (some value) = [(key, value)] := by
  unfold givenMember
  split
  · contradiction
  · rename_i null
    exact absurd (Option.some.inj null) given
  · rename_i written same
    rw [Option.some.inj same]

/-- An operand is found where it was written, null after the other members. -/
theorem nonNull_or_lookup_nullMember (key : String) (value : Option Value) :
    (nonNull value).or ((nullMember key value).lookup key) = value := by
  unfold nonNull nullMember
  split <;> simp_all

/-! ## Conditions -/

namespace Condition

/-- The members of the written form of a condition. -/
def writtenMembers (op : String) (left right : Option Value) (items : Option (List Condition)) :
    Row :=
  [("op", .str op)] ++ givenMember "left" left ++ givenMember "right" right ++ itemsMember items
    ++ nullMember "left" left ++ nullMember "right" right

theorem lookup_itemsMember_other
    {key : String} (different : key ≠ "items") (items : Option (List Condition)) :
    (itemsMember items).lookup key = none := by
  cases items with
  | none => rfl
  | some items => exact lookup_singleton_other different _

theorem lookup_op (op : String) (left right : Option Value) (items : Option (List Condition)) :
    (writtenMembers op left right items).lookup "op" = some (.str op) := by
  simp [writtenMembers]

theorem lookup_left (op : String) (left right : Option Value) (items : Option (List Condition)) :
    (writtenMembers op left right items).lookup "left" = left := by
  simp only [writtenMembers, List.lookup_append, lookup_givenMember_same,
    lookup_givenMember_other (show "left" ≠ "right" by decide),
    lookup_nullMember_other (show "left" ≠ "right" by decide),
    lookup_itemsMember_other (show "left" ≠ "items" by decide)]
  simp [lookup_singleton_other, nonNull_or_lookup_nullMember]

theorem lookup_right (op : String) (left right : Option Value) (items : Option (List Condition)) :
    (writtenMembers op left right items).lookup "right" = right := by
  simp only [writtenMembers, List.lookup_append, lookup_givenMember_same,
    lookup_givenMember_other (show "right" ≠ "left" by decide),
    lookup_nullMember_other (show "right" ≠ "left" by decide),
    lookup_itemsMember_other (show "right" ≠ "items" by decide)]
  simp [lookup_singleton_other, nonNull_or_lookup_nullMember]

theorem lookup_items (op : String) (left right : Option Value) (items : Option (List Condition)) :
    (writtenMembers op left right items).lookup "items" = (itemsMember items).lookup "items" := by
  simp only [writtenMembers, List.lookup_append,
    lookup_givenMember_other (show "items" ≠ "left" by decide),
    lookup_givenMember_other (show "items" ≠ "right" by decide),
    lookup_nullMember_other (show "items" ≠ "left" by decide),
    lookup_nullMember_other (show "items" ≠ "right" by decide)]
  simp [lookup_singleton_other]

/-- The parts of a condition are read from its first member with their name. -/
theorem readItems_eq (members : Row) :
    readItems members =
      match members.lookup "items" with
      | some value => (readParts value).under "items"
      | none => .valid none := by
  induction members with
  | nil => rfl
  | cons member rest later =>
      rcases member with ⟨key, value⟩
      rw [readItems, List.lookup_cons]
      by_cases named : key = "items"
      · subst named
        rfl
      · have different : ("items" == key) = false := by
          simpa using fun same => named same.symm
        rw [if_neg named, later, different]

theorem read_writtenMembers
    (op : String) (left right : Option Value) (items : Option (List Condition)) :
    read (.obj (writtenMembers op left right items)) =
      (readItems (writtenMembers op left right items)).map (node (Text.lower op) left right) := by
  have opRead :
      Shape.member (writtenMembers op left right items) ["op"] Shape.lowerText =
        .valid (Text.lower op) := by
    simp only [Shape.member, Shape.find?, List.findSome?, Row.find?, lookup_op]
    rfl
  rw [read, opRead, lookup_left, lookup_right]
  cases readItems (writtenMembers op left right items) <;> rfl

mutual

/-- Every condition can be read back. -/
theorem read_toValue : (condition : Condition) → read condition.toValue = .valid condition.reread
  | node op left right none => by
      change read (.obj (writtenMembers op left right none)) = _
      rw [read_writtenMembers, readItems_eq, lookup_items]
      rfl
  | node op left right (some items) => by
      change read (.obj (writtenMembers op left right (some items))) = _
      rw [read_writtenMembers, readItems_eq, lookup_items]
      change (((readAll 0 (toValues items)).map some).under "items").map _ = _
      rw [readAll_toValues 0 items]
      rfl

theorem readAll_toValues (index : Nat) :
    (items : List Condition) → readAll index (toValues items) = .valid (partsReread items)
  | [] => rfl
  | part :: rest => by
      rw [toValues, readAll, read_toValue part, readAll_toValues (index + 1) rest]
      rfl

end

end Condition

/-! ## Parts of steps -/

theorem FieldSpec.read_toValue (spec : FieldSpec) :
    FieldSpec.read spec.toValue = .valid spec := by
  rcases spec with ⟨source, target, typeHint⟩
  cases typeHint <;> rfl

theorem ComputeSpec.read_toValue (spec : ComputeSpec) :
    ComputeSpec.read spec.toValue = .valid spec := rfl

theorem MapSpec.read_toValue (spec : MapSpec) :
    MapSpec.read spec.toValue = .valid spec.forgetNull := by
  rcases spec with ⟨source, target, mapping, fallback⟩
  cases fallback with
  | none => rfl
  | some value => cases value <;> rfl

theorem MetricSpec.read_toValue (metric : MetricSpec) :
    MetricSpec.read metric.toValue = .valid metric.reread := by
  rcases metric with ⟨target, function, field, expr⟩
  cases field <;> cases expr <;> rfl

theorem Condition.toValue_eq_obj (condition : Condition) :
    ∃ members, condition.toValue = .obj members := by
  rcases condition with ⟨op, left, right, items⟩
  exact ⟨_, rfl⟩

theorem Filter.read_toValue (filter : Filter) :
    Filter.read filter.toValue = .valid filter.reread := by
  cases filter with
  | expr text => rfl
  | tree condition =>
      have read := condition.read_toValue
      rcases condition.toValue_eq_obj with ⟨members, written⟩
      rw [written] at read
      simp only [Filter.toValue, written, Filter.read, read]
      rfl

theorem Filter.toValue_ne_null (filter : Filter) : filter.toValue ≠ .null := by
  cases filter with
  | expr text => nofun
  | tree condition =>
      rcases condition.toValue_eq_obj with ⟨members, written⟩
      rw [Filter.toValue, written]
      nofun

/-! ## Steps and plans -/

/-- Every step can be read back. -/
theorem Step.read_toValue (step : Step) : Step.read step.toValue = .valid step.reread := by
  cases step with
  | select fields =>
      change (((Shape.items FieldSpec.read 0 (fields.map (·.toValue))).under _).map _).under _ = _
      rw [Shape.items_map_eq_valid FieldSpec.read_toValue, List.map_id']
      rfl
  | filter condition =>
      cases condition with
      | none => rfl
      | some filter =>
          rw [Step.toValue, Step.members, Option.map_some,
            givenMember_of_ne_null filter.toValue_ne_null]
          change ((((Shape.optional Filter.read filter.toValue).under _).map _).under _) = _
          rw [Shape.optional_of_ne_null filter.toValue_ne_null, filter.read_toValue]
          rfl
  | compute specs =>
      change (((Shape.items ComputeSpec.read 0 (specs.map (·.toValue))).under _).map _).under _ = _
      rw [Shape.items_map_eq_valid ComputeSpec.read_toValue, List.map_id']
      rfl
  | mapValue specs =>
      change (((Shape.items MapSpec.read 0 (specs.map (·.toValue))).under _).map _).under _ = _
      rw [Shape.items_map_eq_valid MapSpec.read_toValue]
      rfl
  | sort by_ direction => rfl
  | groupBy keys =>
      change (((Shape.items Shape.text 0 (keys.map .str)).under _).map _).under _ = _
      have textRead : ∀ key, Shape.text (.str key) = .valid key := fun _ => rfl
      rw [Shape.items_map_eq_valid textRead, List.map_id']
      rfl
  | aggregate metrics =>
      change (((Shape.items MetricSpec.read 0 (metrics.map (·.toValue))).under _).map _).under _ = _
      rw [Shape.items_map_eq_valid MetricSpec.read_toValue]
      rfl
  | limit count => cases count <;> rfl

theorem Step.opProblem?_toValue (index : Nat) (step : Step) :
    Step.opProblem? index step.toValue = .ok none := by
  cases step <;> rfl

/-- Every plan can be read back. -/
theorem Plan.read_toValue (plan : Plan) : Plan.read plan.toValue = .ok plan.reread := by
  refine (Plan.read_written_eq_ok_iff plan.version plan.recordPath _ _).2
    ⟨?_, _, Shape.items_map_eq_valid Step.read_toValue 0 plan.steps, rfl⟩
  rw [Step.opProblems_eq_nil_iff]
  intro written member
  rcases List.mem_map.1 member with ⟨step, _, rfl⟩
  exact Step.opProblem?_toValue 0 step

/-! ## Valid plans -/

/-- The names that a valid plan uses for operators, functions and directions. -/
def knownNames : List String :=
  Condition.Test.names ++ Condition.logicalOps ++ aggregateFunctions ++ ["asc", "desc"]

/-- Known names are in lower case. -/
theorem lower_knownName : ∀ name ∈ knownNames, Text.lower name = name := by
  decide +kernel

theorem lower_test
    {op : String} (listed : op ∈ Condition.Test.names) :
    Text.lower op = op := by
  apply lower_knownName
  simp [knownNames, listed]

theorem lower_joining
    {op : String} (joins : op = "and" ∨ op = "or") :
    Text.lower op = op := by
  rcases joins with rfl | rfl
  · exact lower_knownName "and" (by decide)
  · exact lower_knownName "or" (by decide)

theorem lower_direction
    {direction : String} (given : direction = "asc" ∨ direction = "desc") :
    Text.lower direction = direction := by
  rcases given with rfl | rfl
  · exact lower_knownName "asc" (by decide)
  · exact lower_knownName "desc" (by decide)

theorem MetricSpec.Valid.reread_eq
    {metric : MetricSpec} (valid : metric.Valid) :
    metric.reread = metric := by
  have known : metric.function ∈ knownNames := by simp [knownNames, valid.function]
  rw [MetricSpec.reread, lower_knownName metric.function known]

theorem MetricSpec.map_reread_of_valid
    {metrics : List MetricSpec} (valid : ∀ metric ∈ metrics, metric.Valid) :
    metrics.map MetricSpec.reread = metrics := by
  rw [List.map_congr_left fun metric member => (valid metric member).reread_eq]
  exact List.map_id' metrics

/-- What is read back from a valid condition is valid. -/
theorem Condition.Valid.reread
    {tree : Condition} (valid : tree.Valid) :
    tree.reread.Valid := by
  induction valid with
  | negation _ itemValid =>
      rw [Condition.reread, lower_knownName "not" (by decide)]
      exact .negation itemValid
  | joined joins nonempty _ itemsValid =>
      rw [Condition.reread, lower_joining joins, Condition.optionalReread,
        Condition.partsReread_eq_map]
      refine .joined joins (by simpa using nonempty) ?_
      intro item member
      rcases List.mem_map.1 member with ⟨written, writtenMember, rfl⟩
      exact itemsValid written writtenMember
  | test listed array leftValid rightValid =>
      rw [Condition.reread, lower_test listed]
      exact .test listed array leftValid rightValid

theorem Step.reread_op (step : Step) : step.reread.op = step.op := by
  cases step <;> rfl

/-- Without fallbacks of null the mapped fields keep their names. -/
theorem MapSpec.map_target_forgetNull (specs : List MapSpec) :
    (specs.map MapSpec.forgetNull).map (·.target) = specs.map (·.target) := by
  rw [List.map_map]
  rfl

theorem Step.Valid.mapValue_forgetNull
    {previous next : Option Step} {specs : List MapSpec}
    (valid : (Step.mapValue specs).Valid previous next) :
    (Step.mapValue (specs.map MapSpec.forgetNull)).Valid previous next := by
  rcases valid with ⟨nonempty, specsValid, distinct⟩
  refine ⟨by simpa using nonempty, ?_, ?_⟩
  · intro spec member
    rcases List.mem_map.1 member with ⟨written, writtenMember, rfl⟩
    exact specsValid written writtenMember
  · rw [MapSpec.map_target_forgetNull]
    exact distinct

theorem Step.Valid.reread
    {previous next : Option Step} {step : Step} (valid : step.Valid previous next) :
    step.reread.Valid previous next := by
  cases step with
  | filter condition =>
      rcases valid with ⟨kept, rfl, keptValid⟩
      refine ⟨kept.reread, rfl, ?_⟩
      cases kept with
      | expr text => exact keptValid
      | tree condition => exact Condition.Valid.reread keptValid
  | mapValue specs => exact valid.mapValue_forgetNull
  | sort by_ direction =>
      rw [Step.reread, lower_direction valid.2]
      exact valid
  | aggregate metrics =>
      rw [Step.reread, MetricSpec.map_reread_of_valid valid.2.1]
      exact valid
  | _ => exact valid

theorem Plan.Valid.reread
    {plan : Plan} (valid : plan.Valid) :
    plan.reread.Valid where
  version := valid.version
  recordPath := valid.recordPath
  steps := valid.steps.map Step.reread_op Step.Valid.reread

/-- The written form of a valid plan can be loaded. -/
theorem Plan.Valid.load_toValue
    {plan : Plan} (valid : plan.Valid) :
    Plan.load plan.toValue = .ok plan.reread :=
  (Plan.load_eq_ok_iff _ _).2 ⟨plan.read_toValue, valid.reread⟩

end RowPlan
