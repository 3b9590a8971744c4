import RowPlan.Proofs.Plan.Readable
import RowPlan.Proofs.Plan.Reading
import RowPlan.Proofs.Pointer
import RowPlan.Proofs.Value.Row
import RowPlan.Proposal.Payload

/-!
# Plans that do not say where their records are

A proposed plan without a pointer to its records gets a default one. Nothing else of the plan
depends on the default: with any pointer that says something, the same plan is loaded, except for
the pointer. Without a default such a plan is about the whole document, if it is accepted at all.
-/

namespace RowPlan

/-! ## Reading a plan beside its source -/

/-- A plan whose version and steps are read from some members; its pointer is any. -/
structure Plan.ReadsBesideSource (members : Row) (plan : Plan) : Prop where
  ops : Plan.stepProblems members = .ok []
  version :
    Shape.memberOr members ["planVersion", "plan_version"] Shape.text planVersion =
      .valid plan.version
  steps : Shape.memberOr members ["steps"] Plan.readSteps [] = .valid plan.steps

theorem Plan.read_obj_eq_ok_iff
    {members : Row} {plan : Plan} :
    Plan.read (.obj members) = .ok plan ↔
      plan.ReadsBesideSource members ∧
        Shape.memberOr members ["source"] Plan.readSource "/" = .valid plan.recordPath := by
  rw [Plan.read_eq_ok_iff]
  simp only [Value.obj.injEq, exists_eq_left']
  constructor
  · rintro ⟨noProblems, membersRead⟩
    rcases Shape.Checked.both_eq_valid_iff.1 membersRead with
      ⟨ofSteps, steps, ofSource, stepsRead, rfl⟩
    rcases Shape.Checked.both_eq_valid_iff.1 ofSource with
      ⟨ofPath, path, ofVersion, pathRead, rfl⟩
    rcases Shape.Checked.map_eq_valid_iff.1 ofVersion with ⟨version, versionRead, rfl⟩
    exact ⟨⟨noProblems, versionRead, stepsRead⟩, pathRead⟩
  · rintro ⟨⟨ops, version, steps⟩, path⟩
    refine ⟨ops, ?_⟩
    rw [readMembers, version, path, steps]
    rfl

theorem Plan.ReadsBesideSource.withRecordPath
    {members : Row} {plan : Plan} (reads : plan.ReadsBesideSource members) (path : String) :
    (plan.withRecordPath path).ReadsBesideSource members :=
  ⟨reads.ops, reads.version, reads.steps⟩

/-- A member is found as before, once another one has been set. -/
theorem Shape.find?_set
    {names : List String} {key : String} (other : key ∉ names) (object : Row) (value : Value) :
    find? (object.set key value) names = find? object names := by
  induction names with
  | nil => rfl
  | cons name rest later =>
      rw [List.mem_cons, not_or] at other
      have here := Row.find?_set_other (Ne.symm other.1) object value
      simp only [find?] at later ⊢
      rw [List.findSome?_cons, List.findSome?_cons, here, later other.2]

/-- The source of a plan has no part in reading the rest. -/
theorem Plan.readsBesideSource_set_iff
    {members : Row} {source : Value} {plan : Plan} :
    plan.ReadsBesideSource (members.set "source" source) ↔ plan.ReadsBesideSource members := by
  have problems : stepProblems (members.set "source" source) = stepProblems members := by
    rw [stepProblems, stepProblems, Row.find?_set_other (by decide)]
  have version :
      Shape.memberOr (members.set "source" source) ["planVersion", "plan_version"] Shape.text
          planVersion =
        Shape.memberOr members ["planVersion", "plan_version"] Shape.text planVersion := by
    rw [Shape.memberOr, Shape.find?_set (by decide)]
    rfl
  have steps :
      Shape.memberOr (members.set "source" source) ["steps"] readSteps [] =
        Shape.memberOr members ["steps"] readSteps [] := by
    rw [Shape.memberOr, Shape.find?_set (by decide)]
    rfl
  constructor
  · intro reads
    exact ⟨problems ▸ reads.ops, version ▸ reads.version, steps ▸ reads.steps⟩
  · intro reads
    exact ⟨problems.trans reads.ops, version.trans reads.version, steps.trans reads.steps⟩

namespace Proposal

/-! ## Loading with a default -/

/-- A plan that does not say where its records are, under neither of the names for it. -/
structure LeavesOutPath (members : Row) : Prop where
  given : hasRecordPath members = false
  other :
    ∀ source, members.find? "source" = some (.obj source) → Row.find? source "record_path" = none

theorem load_eq_ok_iff
    {value : Value} {defaultPath : Option String} {plan : Plan} :
    load value defaultPath = .ok plan ↔ Plan.load (withDefaultPath value defaultPath) = .ok plan :=
  Outcome.mapError_eq_ok_iff

/-- With a default, a plan is loaded that has the default for its pointer. -/
theorem load_default_eq_ok_iff
    {members : Row} (leftOut : hasRecordPath members = false) {path : String} (given : path ≠ "")
    {plan : Plan} :
    load (.obj members) (some path) = .ok plan ↔
      plan.ReadsBesideSource members ∧ plan.recordPath = path ∧ plan.Valid := by
  have placed :
      ∃ source,
        withDefaultPath (.obj members) (some path) = .obj (members.set "source" (.obj source)) ∧
          Plan.readSource (.obj source) = .valid path := by
    have notEmpty : (path.isEmpty || hasRecordPath members) = false := by
      simpa [leftOut] using given
    refine ⟨_, by rw [withDefaultPath, notEmpty]; rfl, ?_⟩
    rw [Plan.readSource, Shape.record, Shape.memberOr, Shape.find?, List.findSome?_cons,
      Row.find?_set_same]
    rfl
  rcases placed with ⟨source, filled, sourceRead⟩
  have pathRead :
      Shape.memberOr (members.set "source" (.obj source)) ["source"] Plan.readSource "/" =
        .valid path := by
    rw [Shape.memberOr, Shape.find?, List.findSome?_cons, Row.find?_set_same]
    change (Plan.readSource (.obj source)).under "source" = _
    rw [sourceRead]
    rfl
  rw [load_eq_ok_iff, filled, Plan.load_eq_ok_iff, Plan.read_obj_eq_ok_iff, pathRead,
    Plan.readsBesideSource_set_iff, and_assoc, Shape.Checked.valid.injEq, eq_comm (a := path)]

/-- Another default gives the same plan for other records. -/
theorem load_other_default
    {members : Row} (leftOut : hasRecordPath members = false) {path other : String}
    (given : path ≠ "") (otherGiven : other ≠ "") {plan : Plan}
    (loaded : load (.obj members) (some path) = .ok plan) :
    load (.obj members) (some other) = .ok (plan.withRecordPath other) := by
  rcases (load_default_eq_ok_iff leftOut given).1 loaded with ⟨reads, _, valid⟩
  refine (load_default_eq_ok_iff leftOut otherGiven).2 ⟨reads.withRecordPath other, rfl, ?_⟩
  exact ⟨valid.version, otherGiven, valid.steps⟩

theorem load_none_eq (value : Value) :
    load value none = (Plan.load value).mapError .ofLoadError := by
  cases value <;> rfl

/-- The pointer of a source that names none is that of the whole document, or empty. -/
theorem recordPath_of_readSource
    {source : Row} (leftOut : ((Row.find? source "recordPath").map Value.isGiven).getD false = false)
    (noOther : Row.find? source "record_path" = none) {path : String}
    (sourceRead : Plan.readSource (.obj source) = .valid path) :
    path = Pointer.root ∨ path = "" := by
  rw [Plan.readSource, Shape.record, Shape.memberOr, Shape.find?, List.findSome?_cons,
    List.findSome?_cons, noOther] at sourceRead
  cases named : Row.find? source "recordPath" with
  | none =>
      rw [named] at sourceRead
      cases sourceRead
      exact Or.inl rfl
  | some value =>
      rw [named] at sourceRead leftOut
      cases value with
      | str text =>
          cases sourceRead
          exact Or.inr (by simpa [Value.isGiven] using leftOut)
      | _ => cases sourceRead

/-- A plan that is accepted without a default is about the whole document. -/
theorem recordPath_of_load_none
    {members : Row} (leavesOut : LeavesOutPath members) {plan : Plan}
    (loaded : load (.obj members) none = .ok plan) :
    plan.recordPath = Pointer.root := by
  rw [load_none_eq, Outcome.mapError_eq_ok_iff, Plan.load_eq_ok_iff,
    Plan.read_obj_eq_ok_iff] at loaded
  rcases loaded with ⟨⟨_, pathRead⟩, valid⟩
  have leftOut := leavesOut.given
  rw [hasRecordPath] at leftOut
  cases named : members.find? "source" with
  | none =>
      rw [Shape.memberOr, Shape.find?, List.findSome?_cons, named] at pathRead
      exact (Shape.Checked.valid.inj pathRead).symm
  | some value =>
      rw [named] at leftOut
      rw [Shape.memberOr, Shape.find?, List.findSome?_cons, named] at pathRead
      have sourceRead := Shape.Checked.under_eq_valid_iff.1 pathRead
      cases value with
      | obj source =>
          rcases recordPath_of_readSource leftOut (leavesOut.other source named) sourceRead with
            whole | empty
          · exact whole
          · exact absurd empty valid.recordPath
      | _ => cases sourceRead

/-- Where a default makes a plan acceptable, it is accepted or refused without one as well. -/
theorem load_none_cases
    {members : Row} (leftOut : hasRecordPath members = false) {path : String} (given : path ≠ "")
    {plan : Plan} (loaded : load (.obj members) (some path) = .ok plan) :
    (∃ other, load (.obj members) none = .ok other) ∨
      ∃ problems, load (.obj members) none = .error (.refused problems) := by
  rcases (load_default_eq_ok_iff leftOut given).1 loaded with ⟨reads, _, valid⟩
  rw [load_none_eq, Plan.load, Plan.parse]
  cases isRead : Plan.read (.obj members) with
  | error error =>
      cases error with
      | malformed problems => exact .inr ⟨_, rfl⟩
      | text error =>
          rw [Plan.read, reads.ops] at isRead
          dsimp only at isRead
          split at isRead <;> cases isRead
  | ok other =>
      have otherReads := (Plan.read_obj_eq_ok_iff.1 isRead).1
      have sameSteps : other.steps = plan.steps :=
        Shape.Checked.valid.inj (otherReads.steps.symm.trans reads.steps)
      have readable : other.Readable := by
        rw [Plan.Readable, sameSteps]
        exact valid.readable
      change (∃ _, other.validate.mapError _ = _) ∨ ∃ _, other.validate.mapError _ = _
      rcases readable.validate_cases with ⟨accepted, _⟩ | ⟨problems, refused⟩
      · exact .inl ⟨other, by rw [accepted]; rfl⟩
      · exact .inr ⟨problems, by rw [refused]; rfl⟩

end Proposal

end RowPlan
