import RowPlan.Proofs.Execution.PendingGroups

/-!
# References that find no field

A plan may name fields that the rows do not have; they read as null, and a warning has to say so.
The field references that a step reads are listed here for each operation, together with the row
that each is resolved against. A step notes what the resolution of its references has to say, but it
overlooks two kinds: a reference in a computed field that is, letter for letter, the name of a
field, and every reference in the expression of a metric. For all others the run gives the warning.
-/

namespace RowPlan

open StepResult

/-! ## What a step reads -/

/-- Where a field reference stands: by itself or in a filter, in the expression of a computed field,
or in that of a metric. -/
inductive Occurrence where
  | plain
  | computed
  | metric
deriving DecidableEq

/-- A field reference that a step reads, and the row that it is resolved against. -/
structure FieldRead where
  occurrence : Occurrence
  sample : Row
  reference : String

namespace FieldRead

/-- The field that is read. -/
def resolution (read : FieldRead) : Field.Resolution := Field.resolve read.reference read.sample

/-- Whether a step has nothing to say about a reference, whatever it resolves to. In the expression
of a computed field that is a reference spelled like a field of the sample, although it stands for
another one if it has slashes or tildes. -/
def overlooked (read : FieldRead) : Bool :=
  match read.occurrence with
  | .plain => false
  | .computed => read.sample.has read.reference
  | .metric => true

/-- The reads of some references. -/
def ofReferences (occurrence : Occurrence) (sample : Row) (references : List String) :
    List FieldRead :=
  references.map fun reference => ⟨occurrence, sample, reference⟩

end FieldRead

/-- The field references of an expression text. -/
def textReferences (text : String) : List String :=
  match Expr.parse text with
  | .ok expr => expr.references
  | .error _ => []

/-- The field references of what a filter keeps. -/
def Filter.references : Filter → List String
  | .expr text => textReferences text
  | .tree condition => condition.references

/-- What computed fields read. Each is resolved against the sample with the fields computed before
it. -/
def ComputeSpec.reads (sample : Row) : List ComputeSpec → List FieldRead
  | [] => []
  | spec :: rest =>
    FieldRead.ofReferences .computed sample (textReferences spec.expr)
      ++ ComputeSpec.reads (sample.set spec.target .null) rest

/-- What a metric reads: nothing if it counts rows, else what its expression reads, and without an
expression its field. -/
def MetricSpec.reads (sample : Row) (metric : MetricSpec) : List FieldRead :=
  if metric.function = "count" then []
  else
    match given? metric.expr with
    | some text => FieldRead.ofReferences .metric sample (textReferences text)
    | none => FieldRead.ofReferences .plain sample (given? metric.field).toList

/-- What a step reads on rows of which the sample is the first. -/
def Step.reads (sample : Row) : Step → List FieldRead
  | .select fields => FieldRead.ofReferences .plain sample (fields.map (·.source))
  | .filter condition =>
    FieldRead.ofReferences .plain sample ((condition.map Filter.references).getD [])
  | .compute specs => ComputeSpec.reads sample specs
  | .mapValue specs => FieldRead.ofReferences .plain sample (specs.map (·.source))
  | .sort by_ _ => FieldRead.ofReferences .plain sample [by_]
  | .groupBy keys => FieldRead.ofReferences .plain sample keys
  | .aggregate metrics => metrics.flatMap (MetricSpec.reads sample)
  | .limit _ => []

/-! ## What a step notes -/

namespace FieldRead

/-- The notes on those of some reads that are not overlooked. -/
def notes (reads : List FieldRead) : List Field.Note :=
  (reads.filter fun read => !read.overlooked).filterMap (·.resolution.note)

theorem mem_notes_iff
    {reads : List FieldRead} {note : Field.Note} :
    note ∈ notes reads ↔
      ∃ read ∈ reads, read.overlooked = false ∧ read.resolution.note = some note := by
  simp [notes, and_assoc]

theorem notes_append
    (first second : List FieldRead) :
    notes (first ++ second) = notes first ++ notes second := by
  rw [notes, List.filter_append, List.filterMap_append]
  rfl

theorem notes_plain
    (sample : Row) (references : List String) :
    notes (ofReferences .plain sample references) = notesOn references sample := by
  rw [notes, ofReferences, List.filter_eq_self.2, List.filterMap_map]
  · rfl
  · intro read member
    rcases List.mem_map.1 member with ⟨reference, _, rfl⟩
    rfl

theorem notes_computed
    (sample : Row) (references : List String) :
    notes (ofReferences .computed sample references) =
      notesOn (references.filter fun reference => !sample.has reference) sample := by
  rw [notes, ofReferences, List.filter_map, List.filterMap_map]
  rfl

theorem notes_metric
    (sample : Row) (references : List String) :
    notes (ofReferences .metric sample references) = [] := by
  rw [notes, ofReferences, List.filter_map]
  simp [overlooked, Function.comp_def]

end FieldRead

theorem textReferences_of_parseExpr
    {text : String} {expr : Expr} (parsed : parseExpr text = .ok expr) :
    textReferences text = expr.references := by
  rw [textReferences, Outcome.mapError_eq_ok_iff.1 parsed]

theorem StepResult.references_of_compileFilter
    {filter : Filter} {references : List String} {holds : Row → Except TextError (Option Bool)}
    (compiled : compileFilter filter = .ok (references, holds)) :
    filter.references = references := by
  cases filter with
  | expr text =>
      rcases Outcome.map_eq_ok_iff.1 compiled with ⟨expr, parsed, same⟩
      cases same
      exact textReferences_of_parseExpr parsed
  | tree condition =>
      cases compiled
      rfl

/-- Computed fields are noted one after the other, as they are read. -/
theorem StepResult.computeNotes_eq
    {specs : List ComputeSpec} {compiled : List (String × Expr)}
    (parsed : compileSpecs specs = .ok compiled) (sample : Row) :
    computeNotes sample compiled = FieldRead.notes (ComputeSpec.reads sample specs) := by
  have each := Outcome.mapM_eq_ok_iff.1 parsed
  clear parsed
  induction each generalizing sample with
  | nil => rfl
  | cons here _ later =>
      rcases Outcome.map_eq_ok_iff.1 here with ⟨expr, textParsed, rfl⟩
      rw [computeNotes, ComputeSpec.reads, FieldRead.notes_append, FieldRead.notes_computed,
        textReferences_of_parseExpr textParsed, later]

theorem MetricSpec.notes_reads
    (sample : Row) (metrics : List MetricSpec) :
    FieldRead.notes (metrics.flatMap (reads sample)) = notesOn (metricFields metrics) sample := by
  induction metrics with
  | nil => rfl
  | cons metric rest later =>
      rw [List.flatMap_cons, FieldRead.notes_append, later, reads]
      by_cases counts : metric.function = "count"
      · simp [metricFields, counts, FieldRead.notes]
      · rw [if_neg counts]
        cases expr : given? metric.expr with
        | some text => simp [metricFields, counts, expr, FieldRead.notes_metric]
        | none =>
            have fields :
                metricFields (metric :: rest) = (given? metric.field).toList ++ metricFields rest := by
              cases field : given? metric.field <;> simp [metricFields, counts, expr, field]
            rw [fields, FieldRead.notes_plain, notesOn, notesOn, notesOn, List.filterMap_append]

/-- On rows a step notes what it reads, and has nothing else to say. -/
theorem Step.notes_eq
    {step : Step} {state reached : State} {notes : List Field.Note}
    (ran : step.run state = .ok (reached, notes)) (inhabited : state.rows ≠ []) :
    notes = FieldRead.notes (step.reads (Records.sample state.rows)) := by
  have notEmpty : ¬ state.rows.isEmpty = true := by simpa using inhabited
  cases step with
  | select fields =>
      rw [run, StepResult.select, if_neg notEmpty] at ran
      cases ran
      rw [reads, FieldRead.notes_plain, notesOn, List.filterMap_map, List.filterMap_map]
      rfl
  | filter condition =>
      cases condition with
      | none =>
          rw [run, StepResult.filter.eq_def, if_neg notEmpty] at ran
          cases ran
      | some kept =>
          rw [run, StepResult.filter.eq_def, if_neg notEmpty] at ran
          rcases Outcome.bind_eq_ok_iff.1 ran with ⟨⟨references, holds⟩, compiled, filtered⟩
          rcases Outcome.bind_eq_ok_iff.1 filtered with ⟨_, _, result⟩
          cases result
          rw [reads, Option.map_some, Option.getD_some, FieldRead.notes_plain,
            references_of_compileFilter compiled]
  | compute specs =>
      rw [run, StepResult.compute, if_neg notEmpty] at ran
      rcases Outcome.bind_eq_ok_iff.1 ran with ⟨compiled, parsed, result⟩
      cases result
      exact computeNotes_eq parsed (Records.sample state.rows)
  | mapValue specs =>
      rw [run, StepResult.mapValue, if_neg notEmpty] at ran
      rcases Outcome.bind_eq_ok_iff.1 ran with ⟨_, _, result⟩
      cases result
      rw [reads, FieldRead.notes_plain, notesOn, List.filterMap_map, List.filterMap_map]
      rfl
  | sort by_ direction =>
      rw [run, StepResult.sort, if_neg notEmpty] at ran
      cases ran
      rw [reads, FieldRead.notes_plain, notesOn, List.filterMap_cons]
      cases (Field.resolve by_ (Records.sample state.rows)).note <;> rfl
  | groupBy keys =>
      cases ran
      rw [if_neg notEmpty, reads, FieldRead.notes_plain, notesOn, List.filterMap_map]
      rfl
  | aggregate metrics =>
      rcases Outcome.bind_eq_ok_iff.1 ran with ⟨rows, _, result⟩
      cases result
      rw [if_neg notEmpty, reads, MetricSpec.notes_reads]
  | limit count =>
      cases count <;> cases ran <;> rfl

/-! ## What a run warns about -/

/-- A note that a reference has found no field. -/
def Field.Note.IsMissing : Field.Note → Prop
  | .empty _ => True
  | .notFound .. => True
  | _ => False

theorem FieldRead.note_of_unresolved
    {read : FieldRead} (unresolved : read.resolution.isResolved = false) :
    ∃ note, read.resolution.note = some note ∧ note.IsMissing := by
  unfold Field.Resolution.isResolved at unresolved
  split at unresolved
  · rename_i noted
    exact ⟨_, noted, trivial⟩
  · rename_i noted
    exact ⟨_, noted, trivial⟩
  · cases unresolved

/-- What a step says in the middle of a run, the run says. -/
theorem runFrom_mem_notes
    {state final before : State} {first second : List Step} {step : Step}
    {notes firstNotes : List Field.Note}
    (ran : runFrom state (first ++ step :: second) = .ok (final, notes))
    (reached : runFrom state first = .ok (before, firstNotes)) :
    ∃ after stepNotes,
      step.run before = .ok (after, stepNotes) ∧ ∀ note ∈ stepNotes, note ∈ notes := by
  rcases runFrom_append_eq_ok_iff.1 ran with ⟨middle, _, secondNotes, firstRan, secondRan, rfl⟩
  rcases runFrom_cons_eq_ok_iff.1 secondRan with ⟨after, stepNotes, _, stepRan, _, rfl⟩
  rw [reached] at firstRan
  cases firstRan
  refine ⟨after, stepNotes, stepRan, ?_⟩
  intro note member
  exact List.mem_append_right _ (List.mem_append_left _ member)

/-- The notes of every step of a run are among its warnings. -/
theorem Plan.step_notes_warned
    {plan : Plan} {rows : List Row} {table : Table} (ran : plan.runSteps rows = .ok table)
    {i : Nat} {step : Step} (atI : plan.steps[i]? = some step)
    {state : State} (reached : plan.StateBefore rows i state) :
    ∃ after notes,
      step.run state = .ok (after, notes) ∧ ∀ note ∈ notes, note.message ∈ table.warnings := by
  rcases Outcome.bind_eq_ok_iff.1 ran with ⟨⟨final, notes⟩, allRan, result⟩
  cases result
  rcases reached with ⟨firstNotes, firstRan⟩
  have rest : plan.steps.drop i = step :: plan.steps.drop (i + 1) := by
    rw [List.drop_eq_getElem?_toList_append, atI]
    rfl
  rw [← List.take_append_drop i plan.steps, rest] at allRan
  rcases runFrom_mem_notes allRan firstRan with ⟨after, stepNotes, stepRan, kept⟩
  refine ⟨after, stepNotes, stepRan, ?_⟩
  intro note member
  exact List.mem_eraseDups.2 (List.mem_map_of_mem (kept note member))

/-- What is said about a reference that finds no field is among the warnings of a step that reads
it, unless the step overlooks the reference. -/
structure Step.WarnsOfMissing (step : Step) (state : State) (warnings : List String) : Prop where
  warned :
    ∀ read ∈ step.reads (Records.sample state.rows),
      read.resolution.isResolved = false → read.overlooked = false →
        ∃ note, read.resolution.note = some note ∧ note.IsMissing ∧ note.message ∈ warnings
  noted :
    ∀ reached notes, step.run state = .ok (reached, notes) →
      ∀ note, note ∈ notes ↔
        ∃ read ∈ step.reads (Records.sample state.rows),
          read.overlooked = false ∧ read.resolution.note = some note

/--
An accepted plan that runs on the records of a document warns of the references that find no field.
At each of its steps that has rows, a reference that the step reads and does not overlook is
resolved or else has its warning; and a step notes exactly what there is to say about the references
that it does not overlook. The run gives a table with the warnings unless it comes to a text that is
lacking.
-/
theorem Plan.missing_fields_warned
    (plan : Plan) (accepted : plan.check = .ok []) (document : Value) (maxRows : Int)
    (records : Records) (extracted : Records.extract document plan.recordPath = .ok records) :
    Outcome.FailsFor (plan.execute document maxRows) (.text .tooManyDigits)
        (plan.StopsOn document maxRows) ∧
      ∀ execution, plan.execute document maxRows = .ok execution →
        ∃ table bounded,
          execution = .done table ∧
          truncateRows maxRows records.rows = .ok bounded ∧
          ∀ i step state,
            plan.steps[i]? = some step →
            plan.StateBefore bounded.1 i state →
            state.rows ≠ [] →
              step.WarnsOfMissing state table.warnings := by
  have valid : plan.Valid := plan.check_eq_nil_iff.1 accepted
  have executed := valid.execute_eq document maxRows
  refine ⟨executed ▸ valid.runOn_fails document maxRows, fun execution done => ?_⟩
  rw [executed, Plan.runOn, extracted] at done
  rcases Outcome.bind_eq_ok_iff.1 done with ⟨bounded, cut, rest⟩
  rcases Outcome.bind_eq_ok_iff.1 rest with ⟨table, ran, made⟩
  cases made
  refine ⟨_, bounded, rfl, Outcome.mapError_eq_ok_iff.1 cut, ?_⟩
  intro i step state atI reached inhabited
  rcases Plan.step_notes_warned ran atI reached with ⟨after, notes, stepRan, warned⟩
  constructor
  case warned =>
    intro read member unresolved seen
    rcases read.note_of_unresolved unresolved with ⟨note, noted, missing⟩
    refine ⟨note, noted, missing, ?_⟩
    have said : note ∈ notes := by
      rw [Step.notes_eq stepRan inhabited]
      exact FieldRead.mem_notes_iff.2 ⟨read, member, seen, noted⟩
    exact List.mem_eraseDups.2 (List.mem_append_right _ (warned note said))
  case noted =>
    intro reached notes stepRan note
    rw [Step.notes_eq stepRan inhabited]
    exact FieldRead.mem_notes_iff

/-- A computed field whose expression has a reference that names nothing, read after another
computed field. -/
theorem Plan.missing_fields_warned_computed :
    Plan.check ⟨"1.0", "/", [.compute [⟨"x", "p"⟩, ⟨"y", "`/` + x"⟩]]⟩ = .ok [] ∧
    Records.extract (.arr [.obj [("p", .ofNat 1)]]) "/" = .ok ⟨[[("p", .ofNat 1)]], []⟩ ∧
    ∃ table,
      Plan.execute ⟨"1.0", "/", [.compute [⟨"x", "p"⟩, ⟨"y", "`/` + x"⟩]]⟩
          (.arr [.obj [("p", .ofNat 1)]]) 0 = .ok (.done table) ∧
      "Field reference '/' is empty" ∈ table.warnings := by
  have accepted :
      Plan.check ⟨"1.0", "/", [.compute [⟨"x", "p"⟩, ⟨"y", "`/` + x"⟩]]⟩ = .ok [] := by rfl
  have extracted :
      Records.extract (.arr [.obj [("p", .ofNat 1)]]) "/" = .ok ⟨[[("p", .ofNat 1)]], []⟩ := by rfl
  rcases Plan.missing_fields_warned _ accepted _ 0 _ extracted with ⟨fails, completed⟩
  have ends : ¬ Plan.StopsOn ⟨"1.0", "/", [.compute [⟨"x", "p"⟩, ⟨"y", "`/` + x"⟩]]⟩
      (.arr [.obj [("p", .ofNat 1)]]) 0 := by
    rintro ⟨_, _, ⟨bounded, _⟩ | ⟨_, _, stops | ⟨_, ⟨⟩⟩⟩⟩
    · exact bounded rfl
    · cases stops
  rcases fails.succeeds_iff.2 ends with ⟨execution, done⟩
  rcases completed execution done with ⟨table, bounded, rfl, cut, steps⟩
  cases cut
  have warned := (steps 0 _ ⟨[[("p", .ofNat 1)]], none⟩ (by rfl) ⟨[], by rfl⟩ (by simp)).warned
  have references : textReferences "`/` + x" = ["/", "x"] := by decide +kernel
  have second :
      ⟨.computed, [("p", .ofNat 1), ("x", .null)], "/"⟩ ∈
        Step.reads [("p", .ofNat 1)] (.compute [⟨"x", "p"⟩, ⟨"y", "`/` + x"⟩]) := by
    rw [Step.reads, ComputeSpec.reads, ComputeSpec.reads, references]
    exact List.mem_append_right _ List.mem_cons_self
  have empty : (Field.resolve "/" [("p", .ofNat 1), ("x", .null)]).note = some (.empty "/") := by rfl
  have given := warned _ second (by rfl) (by rfl)
  rcases given with ⟨note, noted, given⟩
  have same : note = .empty "/" := Option.some.inj (noted.symm.trans empty)
  rw [same] at given
  exact ⟨accepted, extracted, table, done, given.2⟩

/-- A name with a slash does not name the field that is spelled like it, and the expression of a
metric may have references that name nothing; both results come without a warning. -/
theorem Plan.missing_fields_overlooked :
    (Field.resolve "/" [("/", .ofNat 1)]).note = some (.empty "/") ∧
    Plan.execute ⟨"1.0", "/", [.compute [⟨"x", "`/`"⟩]]⟩ (.arr [.obj [("/", .ofNat 1)]]) 0 =
      .ok (.done ⟨[[("/", .ofNat 1), ("x", .null)]], []⟩) ∧
    (Field.resolve "/" [("p", .ofNat 1)]).note = some (.empty "/") ∧
    Plan.execute ⟨"1.0", "/", [.aggregate [⟨"t", "sum", none, some "`/`"⟩]]⟩
        (.arr [.obj [("p", .ofNat 1)]]) 0 =
      .ok (.done ⟨[[("t", .ofNat 0)]], []⟩) := by
  exact ⟨by rfl, by rfl, by rfl, by rfl⟩

end RowPlan
