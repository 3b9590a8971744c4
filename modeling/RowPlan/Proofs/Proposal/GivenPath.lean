import RowPlan.Proofs.Proposal.DefaultPath

/-!
# Plans that say where their records are

A plan may name the pointer to its records by either of two names. The first one settles it: if it is
there, a default changes nothing. A plan that uses only the other name is loaded with the default in place
of its own pointer, and is otherwise the same plan.
-/

namespace RowPlan.Proposal

theorem withDefaultPath_of_hasRecordPath
    {members : Row} (given : hasRecordPath members = true) (default : Option String) :
    withDefaultPath (.obj members) default = .obj members := by
  cases default <;> simp [withDefaultPath, given]

/-- No default, or an empty one, changes nothing. -/
theorem withDefaultPath_of_getD_eq_empty
    {default : Option String} (empty : default.getD "" = "") (plan : Value) :
    withDefaultPath plan default = plan := by
  cases default with
  | none => cases plan <;> rfl
  | some path =>
      cases plan <;> simp_all [withDefaultPath]

/-- The names under which a source may have its pointer; the first one it has counts. -/
def pathNames : List String := ["recordPath", "record_path"]

/-- The pointer of an accepted plan is what its source has under the name that counts. -/
theorem find?_pathNames
    {members source : Row} (hasSource : members.find? "source" = some (.obj source))
    {name path : String} (isName : name ∈ pathNames)
    (given : Row.find? source name = some (.str path))
    {plan : Plan} (loaded : Plan.load (.obj members) = .ok plan) :
    ∃ first, Shape.find? source pathNames = some (first, .str plan.recordPath) := by
  rcases (Plan.load_eq_ok_iff _ _).1 loaded with ⟨planRead, _⟩
  have pathRead := (Plan.read_obj_eq_ok_iff.1 planRead).2
  have inSource : Shape.find? members ["source"] = some ("source", .obj source) := by
    simp [Shape.find?, hasSource]
  rw [Shape.memberOr, inSource] at pathRead
  have sourceRead : Shape.memberOr source pathNames Shape.text "/" = .valid plan.recordPath :=
    Shape.Checked.under_eq_valid_iff.1 pathRead
  rw [Shape.memberOr] at sourceRead
  cases found : Shape.find? source pathNames with
  | none =>
      have nowhere := List.findSome?_eq_none_iff.1 found name isName
      simp [given] at nowhere
  | some entry =>
      rcases entry with ⟨first, value⟩
      rw [found] at sourceRead
      have textRead := Shape.Checked.under_eq_valid_iff.1 sourceRead
      cases value with
      | str text =>
          cases textRead
          exact ⟨first, rfl⟩
      | _ => cases textRead

/-- The default looks at the first name only. -/
theorem hasRecordPath_iff
    {members source : Row} (hasSource : members.find? "source" = some (.obj source))
    {first path : String} (counts : Shape.find? source pathNames = some (first, .str path))
    (nonempty : path ≠ "") :
    hasRecordPath members = true ↔ first = "recordPath" := by
  rw [hasRecordPath, hasSource]
  rw [pathNames, Shape.find?, List.findSome?_cons] at counts
  cases atFirst : Row.find? source "recordPath" with
  | some value =>
      rw [atFirst] at counts
      cases counts
      simpa [atFirst, Value.isGiven] using nonempty
  | none =>
      rw [atFirst] at counts
      have isOther : first ≠ "recordPath" := by
        rintro rfl
        simp at counts
      simpa [atFirst] using isOther

/--
A plan that is accepted and has its pointer under one of the two names is accepted with any default. It is
the same plan apart from the pointer, and keeps that exactly if it has it under the first name, or there is
no default to speak of, or the default is that pointer.
-/
theorem given_path_kept_iff
    {members source : Row} (hasSource : members.find? "source" = some (.obj source))
    {name path : String} (isName : name ∈ pathNames)
    (given : Row.find? source name = some (.str path))
    {plan : Plan} (loaded : Plan.load (.obj members) = .ok plan) (default : Option String) :
    ∃ first filled,
      Shape.find? source pathNames = some (first, .str plan.recordPath) ∧
        Plan.load (withDefaultPath (.obj members) default) = .ok filled ∧
          filled.steps = plan.steps ∧ filled.version = plan.version ∧
            (filled.recordPath = plan.recordPath ↔
              first = "recordPath" ∨ default.getD "" = "" ∨ default = some plan.recordPath) := by
  rcases find?_pathNames hasSource isName given loaded with ⟨first, counts⟩
  have valid := ((Plan.load_eq_ok_iff _ _).1 loaded).2
  have keeps := hasRecordPath_iff hasSource counts valid.recordPath
  refine ⟨first, ?_⟩
  by_cases unchanged : hasRecordPath members = true ∨ default.getD "" = ""
  · have same : withDefaultPath (.obj members) default = .obj members :=
      unchanged.elim (withDefaultPath_of_hasRecordPath · default)
        (withDefaultPath_of_getD_eq_empty · _)
    refine ⟨plan, counts, ?_, rfl, rfl, ?_⟩
    · rw [same]
      exact loaded
    · rw [← keeps, ← or_assoc]
      exact iff_of_true rfl (Or.inl unchanged)
  · rw [not_or, Bool.not_eq_true] at unchanged
    rcases unchanged with ⟨leftOut, nonempty⟩
    obtain ⟨path, rfl⟩ : ∃ path, default = some path := by
      cases default with
      | none => exact absurd rfl nonempty
      | some path => exact ⟨path, rfl⟩
    rw [Option.getD_some] at nonempty
    have reads := (Plan.read_obj_eq_ok_iff.1 ((Plan.load_eq_ok_iff _ _).1 loaded).1).1
    have filled : load (.obj members) (some path) = .ok (plan.withRecordPath path) :=
      (load_default_eq_ok_iff leftOut nonempty).2
        ⟨reads.withRecordPath path, rfl, valid.version, nonempty, valid.steps⟩
    refine ⟨plan.withRecordPath path, counts, load_eq_ok_iff.1 filled, rfl, rfl, ?_⟩
    have notFirst : first ≠ "recordPath" := by
      rw [Ne, ← keeps, leftOut]
      exact Bool.false_ne_true
    simp [Plan.withRecordPath, notFirst, nonempty]

/-- Both names are used, and the default is another pointer still. -/
theorem given_path_kept_items :
    let source : Row := [("record_path", .str "/rows"), ("recordPath", .str "/items")]
    let members : Row := [("source", .obj source), ("steps", .arr [])]
    members.find? "source" = some (.obj source) ∧ "record_path" ∈ pathNames ∧
      Row.find? source "record_path" = some (.str "/rows") ∧
        Plan.load (.obj members) = .ok ⟨"1.0", "/items", []⟩ ∧
          ∃ filled, Plan.load (withDefaultPath (.obj members) (some "/other")) = .ok filled ∧
            filled.recordPath = "/items" := by
  intro source members
  have loaded : Plan.load (.obj members) = .ok ⟨"1.0", "/items", []⟩ := rfl
  have hasSource : members.find? "source" = some (.obj source) := rfl
  have given : Row.find? source "record_path" = some (.str "/rows") := rfl
  have isName : "record_path" ∈ pathNames := by decide
  rcases given_path_kept_iff hasSource isName given loaded (some "/other") with
    ⟨first, filled, counts, filledLoaded, _, _, kept⟩
  cases counts
  exact ⟨hasSource, isName, given, loaded, filled, filledLoaded, kept.2 (Or.inl rfl)⟩

/-- A default takes the place of a pointer that has the second name. -/
theorem underscored_path_overridden :
    let source : Row := [("record_path", .str "/items")]
    let members : Row := [("source", .obj source), ("steps", .arr [])]
    ∃ plan filled,
      Plan.load (.obj members) = .ok plan ∧ plan.recordPath = "/items" ∧
        Plan.load (withDefaultPath (.obj members) (some "/other")) = .ok filled ∧
          filled.recordPath = "/other" :=
  ⟨_, _, rfl, rfl, rfl, rfl⟩

end RowPlan.Proposal
