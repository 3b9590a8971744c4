import RowPlan.Proofs.Execution.Composition
import RowPlan.Proofs.Shape
import RowPlan.Settings

/-!
# The bounds of settings

Settings that are given as values are natural numbers. Settings that are read from an environment are
whatever its variables say: a setting is negative exactly if its variable writes a negative number.

A bound on the input rows is kept as it should be so long as it is not negative: every valid plan runs
its steps on all records, or on as many of the first ones as the bound allows. A negative bound leaves
out that many records at the end instead. The bound is quoted where it leaves out records, which a bound
that was read never prevents: it has no more digits than can be written.
-/

namespace RowPlan

/-! ## Rows under a bound -/

/-- How many rows of a table a bound lets through: all of them if it is zero, and all but as many as it
says if it is negative. -/
def boundedCount (maxRows : Int) (total : Nat) : Nat :=
  if maxRows = 0 then total
  else if 0 < maxRows then min total maxRows.toNat
  else total - maxRows.natAbs

theorem firstRows_eq_take (count : Int) (rows : List Row) :
    firstRows count rows =
      rows.take (if 0 ≤ count then count.toNat else rows.length - count.natAbs) := by
  cases count with
  | ofNat count =>
      have notNegative : 0 ≤ Int.ofNat count := Int.natCast_nonneg count
      rw [if_pos notNegative]
      rfl
  | negSucc fewer =>
      rw [if_neg (Int.not_le.2 (Int.negSucc_lt_zero fewer))]
      rfl

/-- The rows that a bound lets through are the first ones. -/
theorem truncateRows_eq_take
    {maxRows : Int} {rows : List Row} {bounded : List Row × List String}
    (cut : truncateRows maxRows rows = .ok bounded) :
    bounded.1 = rows.take (boundedCount maxRows rows.length) := by
  rw [truncateRows] at cut
  rw [boundedCount]
  by_cases unbounded : maxRows = 0
  · rw [if_neg fun both => both.1 unbounded] at cut
    cases cut
    rw [if_pos unbounded, List.take_length]
  · rw [if_neg unbounded]
    by_cases exceeded : maxRows < rows.length
    · rw [if_pos ⟨unbounded, exceeded⟩] at cut
      rcases Outcome.bind_eq_ok_iff.1 cut with ⟨text, _, made⟩
      cases made
      have sameCount :
          (if 0 ≤ maxRows then maxRows.toNat else rows.length - maxRows.natAbs) =
            if 0 < maxRows then min rows.length maxRows.toNat else rows.length - maxRows.natAbs := by
        split <;> split <;> omega
      rw [firstRows_eq_take, sameCount]
    · rw [if_neg fun both => exceeded both.2] at cut
      cases cut
      have all : rows.length ≤ min rows.length maxRows.toNat := by omega
      rw [if_pos (by omega), List.take_of_length_le all]

/-- A plan does on a document, under a bound, what its steps do on some rows: it gives the table that they
make of them, or is stopped as they are. -/
def Plan.RunsOn (plan : Plan) (document : Value) (maxRows : Int) (rows : List Row) : Prop :=
  ∃ warnings : List String,
    plan.execute document maxRows =
      (plan.runSteps rows).map fun table =>
        .done ⟨table.rows, (warnings ++ table.warnings).eraseDups⟩

/-- The steps of a valid plan run on the records that the bound lets through. -/
theorem Plan.Valid.runsOn
    {plan : Plan} (valid : plan.Valid) {document : Value} {records : Records}
    (extracted : Records.extract document plan.recordPath = .ok records) {maxRows : Int}
    (writable : Decimal.Writable maxRows) :
    plan.RunsOn document maxRows
      (records.rows.take (boundedCount maxRows records.rows.length)) := by
  rcases (truncateRows_fails maxRows records.rows).succeeds_iff.2 (fun lacks => lacks.2.2 writable) with
    ⟨bounded, cut⟩
  refine ⟨records.warnings ++ bounded.2, ?_⟩
  rw [valid.execute_eq, Plan.runOn, extracted, ← truncateRows_eq_take cut]
  dsimp only
  rw [cut]
  rfl

/-- A plan that takes the records of an array as they are. -/
def Plan.identity : Plan := ⟨planVersion, Pointer.root, []⟩

theorem Plan.identity_valid : identity.Valid := ⟨rfl, by decide, trivial⟩

theorem Plan.runSteps_identity (rows : List Row) : identity.runSteps rows = .ok ⟨rows, []⟩ := rfl

/-- Taking the records as they are tells which rows a bound lets through. -/
theorem Plan.identity_runsOn_unique
    {document : Value} {maxRows : Int} {rows rows' : List Row}
    (runs : identity.RunsOn document maxRows rows) (runs' : identity.RunsOn document maxRows rows') :
    rows = rows' := by
  rcases runs with ⟨warnings, executed⟩
  rcases runs' with ⟨warnings', executed'⟩
  rw [runSteps_identity] at executed executed'
  have sameTable := Execution.done.inj (Except.ok.inj (executed.symm.trans executed'))
  exact congrArg Table.rows sameTable

/-- Under a bound, every valid plan runs its steps on all records of a document if the bound is zero, and
otherwise on as many of the first ones as there are, but no more than the bound. -/
def BoundsRecords (maxRows : Int) : Prop :=
  ∀ plan : Plan, plan.validate = .ok plan →
    ∀ document records, Records.extract document plan.recordPath = .ok records →
      plan.RunsOn document maxRows
        (if maxRows = 0 then records.rows
          else records.rows.take (min (records.rows.length : Int) maxRows).toNat)

theorem boundsRecords_iff {maxRows : Int} (writable : Decimal.Writable maxRows) :
    BoundsRecords maxRows ↔ 0 ≤ maxRows := by
  constructor
  · intro bounds
    refine Decidable.byContradiction fun negative => ?_
    -- An array with one more empty object than the bound leaves out.
    let rows : List Row := List.replicate (maxRows.natAbs + 1) []
    have extracted :
        Records.extract (.arr (rows.map .obj)) Plan.identity.recordPath = .ok ⟨rows, []⟩ := by
      rw [← Records.ofArray_rows]
      rfl
    have accepted : Plan.identity.validate = .ok Plan.identity :=
      (Plan.validate_eq_ok_iff _ _).2 ⟨rfl, Plan.identity_valid⟩
    have sameRows :=
      Plan.identity_runsOn_unique (bounds _ accepted _ _ extracted)
        (Plan.identity_valid.runsOn extracted writable)
    have sameLength := congrArg List.length sameRows
    have count : rows.length = maxRows.natAbs + 1 := List.length_replicate
    have bounded : boundedCount maxRows rows.length = 1 := by
      rw [boundedCount, if_neg (by omega), if_neg (by omega)]
      omega
    rw [if_neg (by omega), List.length_take, List.length_take, bounded] at sameLength
    dsimp only at sameLength
    omega
  · intro notNegative plan accepted document records extracted
    have valid := ((Plan.validate_eq_ok_iff plan plan).1 accepted).2
    have sameRows :
        records.rows.take (boundedCount maxRows records.rows.length) =
          if maxRows = 0 then records.rows
          else records.rows.take (min (records.rows.length : Int) maxRows).toNat := by
      rw [boundedCount]
      by_cases none : maxRows = 0
      · rw [if_pos none, if_pos none, List.take_length]
      · rw [if_neg none, if_neg none, if_pos (by omega)]
        congr 1
        omega
    exact sameRows ▸ valid.runsOn extracted writable

/-! ## Settings -/

namespace Settings

/-- A variable of an environment writes a negative number. -/
def WritesNegative (environment : List (String × String)) (name : String) : Prop :=
  ∃ text n, environment.lookup name = some text ∧ Decimal.integer text = .ok n ∧ n < 0

theorem nonneg_iff_of_integerVariable
    {environment : List (String × String)} {name : String} {unset n : Int} (standard : 0 ≤ unset)
    (read : integerVariable environment name unset = .ok n) :
    0 ≤ n ↔ ¬ WritesNegative environment name := by
  rw [integerVariable] at read
  cases found : environment.lookup name with
  | none =>
      rw [found] at read
      cases read
      refine iff_of_true standard ?_
      rintro ⟨text, n, isText, _, _⟩
      cases found.symm.trans isText
  | some text =>
      rw [found] at read
      constructor
      · rintro notNegative ⟨text', n', isText, read', negative⟩
        cases found.symm.trans isText
        cases read.symm.trans read'
        omega
      · intro notNegative
        refine Int.not_lt.1 fun negative => notNegative ?_
        exact ⟨text, n, found, read, negative⟩

theorem writable_of_integerVariable
    {environment : List (String × String)} {name : String} {unset n : Int}
    (standard : Decimal.Writable unset) (read : integerVariable environment name unset = .ok n) :
    Decimal.Writable n := by
  rw [integerVariable] at read
  split at read
  · exact Decimal.writable_of_integer read
  · cases read
    exact standard

/-- Settings that are read are the numbers of their variables. -/
theorem variables_of_ofEnvironment
    {environment : List (String × String)} {settings : Settings}
    (loaded : ofEnvironment environment = .ok settings) :
    integerVariable environment "JPT_PREVIEW_ROWS" default.previewRows = .ok settings.previewRows ∧
      integerVariable environment "JPT_DISCOVERY_MAX_DEPTH" default.discoveryMaxDepth =
        .ok settings.discoveryMaxDepth ∧
      integerVariable environment "JPT_MAX_ROWS" default.maxRows = .ok settings.maxRows := by
  rcases Outcome.bind_eq_ok_iff.1 loaded with ⟨previewRows, previewRead, loaded⟩
  rcases Outcome.bind_eq_ok_iff.1 loaded with ⟨maxDepth, depthRead, loaded⟩
  rcases Outcome.bind_eq_ok_iff.1 loaded with ⟨maxRows, rowsRead, loaded⟩
  cases loaded
  exact ⟨previewRead, depthRead, rowsRead⟩

theorem nonneg_of_natural
    {value : Value} {n : Int} (read : Shape.natural value = .valid n) : 0 ≤ n := by
  rw [Shape.natural] at read
  cases integer : Shape.integer value with
  | invalid issues =>
      rw [integer] at read
      cases read
  | valid m =>
      rw [integer] at read
      by_cases negative : m < 0
      · simp [Shape.Checked.andThen, negative, Shape.Checked.fault] at read
      · simp only [Shape.Checked.andThen, negative, if_false, Shape.Checked.valid.injEq] at read
        omega

theorem nonneg_of_given
    {name : String} {value : Option Value} {unset n : Int} (standard : 0 ≤ unset)
    (read : given name value unset = .valid n) : 0 ≤ n := by
  cases value with
  | none =>
      cases read
      exact standard
  | some value => exact nonneg_of_natural (Shape.Checked.under_eq_valid_iff.1 read)

/-- Settings that are given as values are not negative. -/
theorem nonneg_of_ofValues
    {previewRows discoveryMaxDepth maxRows : Option Value} {settings : Settings}
    (read : ofValues previewRows discoveryMaxDepth maxRows = .valid settings) :
    0 ≤ settings.previewRows ∧ 0 ≤ settings.discoveryMaxDepth ∧ 0 ≤ settings.maxRows := by
  rcases Shape.Checked.both_eq_valid_iff.1 read with ⟨_, rows, others, rowsRead, rfl⟩
  rcases Shape.Checked.both_eq_valid_iff.1 others with ⟨_, depth, first, depthRead, rfl⟩
  rcases Shape.Checked.map_eq_valid_iff.1 first with ⟨preview, previewRead, rfl⟩
  exact ⟨nonneg_of_given (by decide) previewRead, nonneg_of_given (by decide) depthRead,
    nonneg_of_given (by decide) rowsRead⟩

/--
A setting that is read from an environment is negative exactly if its variable writes a negative number,
and the bound on the rows is kept by every valid plan on every document exactly if its variable does not.
Whatever the bound is, valid plans run their steps on the records that it lets through. Settings that are
given as values are never negative.
-/
theorem bounds_read_iff
    {environment : List (String × String)} {settings : Settings}
    (loaded : ofEnvironment environment = .ok settings) :
    (0 ≤ settings.previewRows ↔ ¬ WritesNegative environment "JPT_PREVIEW_ROWS") ∧
      (0 ≤ settings.discoveryMaxDepth ↔ ¬ WritesNegative environment "JPT_DISCOVERY_MAX_DEPTH") ∧
      (0 ≤ settings.maxRows ↔ ¬ WritesNegative environment "JPT_MAX_ROWS") ∧
      (BoundsRecords settings.maxRows ↔ ¬ WritesNegative environment "JPT_MAX_ROWS") ∧
      (∀ plan : Plan, plan.validate = .ok plan →
        ∀ document records, Records.extract document plan.recordPath = .ok records →
          plan.RunsOn document settings.maxRows
            (records.rows.take (boundedCount settings.maxRows records.rows.length))) ∧
      ∀ previewRows discoveryMaxDepth maxRows given,
        ofValues previewRows discoveryMaxDepth maxRows = .valid given →
          0 ≤ given.previewRows ∧ 0 ≤ given.discoveryMaxDepth ∧ 0 ≤ given.maxRows := by
  rcases variables_of_ofEnvironment loaded with ⟨previewRead, depthRead, rowsRead⟩
  have rowsBound := nonneg_iff_of_integerVariable (by decide) rowsRead
  have writable : Decimal.Writable settings.maxRows :=
    writable_of_integerVariable (by decide) rowsRead
  refine ⟨nonneg_iff_of_integerVariable (by decide) previewRead,
    nonneg_iff_of_integerVariable (by decide) depthRead, rowsBound,
    (boundsRecords_iff writable).trans rowsBound, ?_, fun _ _ _ _ => nonneg_of_ofValues⟩
  intro plan accepted document records extracted
  exact ((Plan.validate_eq_ok_iff plan plan).1 accepted).2.runsOn extracted writable

/-- A bound with blanks around it, beside a negative number of rows to show. -/
theorem bounds_read_iff_two :
    let environment := [("JPT_PREVIEW_ROWS", "-4"), ("JPT_MAX_ROWS", " 2 ")]
    let settings := { default with previewRows := -4, maxRows := 2 }
    ofEnvironment environment = .ok settings ∧ WritesNegative environment "JPT_PREVIEW_ROWS" ∧
      BoundsRecords settings.maxRows := by
  intro environment settings
  have loaded : ofEnvironment environment = .ok settings := by rfl
  have bounds := bounds_read_iff loaded
  refine ⟨loaded, ⟨"-4", -4, by rfl, by rfl, by decide⟩, bounds.2.2.2.1.2 ?_⟩
  rintro ⟨text, n, found, read, negative⟩
  cases found
  have two : Decimal.integer " 2 " = .ok 2 := by rfl
  cases two.symm.trans read
  cases negative

/-- A negative bound is read, and takes away the last record instead of all that are too many. -/
theorem negative_bound_read :
    let environment := [("JPT_MAX_ROWS", "-1")]
    let settings := { default with maxRows := -1 }
    ofEnvironment environment = .ok settings ∧ ¬ 0 ≤ settings.maxRows ∧
      ¬ BoundsRecords settings.maxRows ∧
        Plan.identity.validate = .ok Plan.identity ∧
          Plan.identity.execute (.arr [.obj [("a", .ofNat 1)], .obj [("a", .ofNat 2)]])
              settings.maxRows =
            .ok (.done ⟨[[("a", .ofNat 1)]], ["Input truncated to -1 of 2 rows"]⟩) := by
  refine ⟨by rfl, by decide, ?_, by rfl, by rfl⟩
  rw [boundsRecords_iff (by decide)]
  decide

end Settings

end RowPlan
