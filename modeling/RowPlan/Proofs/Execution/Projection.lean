import Mathlib.Data.List.Nodup
import RowPlan.Proofs.Execution.RowByRow
import RowPlan.Proofs.Field.Resolution

/-!
# Copied fields of copied fields

A row that fields were copied to has exactly those fields, in order. If the fields of a second selection
point at fields of a first one, then one selection does for both: each field is copied from where the
field that it points at was copied from. The pointers find their fields by name alone, however the names
are spelled, and a field that was absent has been made null before it is copied again.

A source that is unresolved is still read, as it is written. It is null in the first row and in every
row without other fields than the first one, but a later row that has the field gives its value.
-/

namespace RowPlan

/-! ## Unresolved sources -/

/-- A row has a value other than null where a reference leads as it is written. -/
def Row.HasAt (row : Row) (reference : String) : Prop :=
  Pointer.split reference ≠ [] ∧
    ∃ value, Pointer.resolve (.obj row) reference = some value ∧ value ≠ .null

namespace Field

section Unresolved

variable {reference : String} {sample : Row}

/-- An unresolved reference is null exactly in the rows that have nothing where it leads. -/
theorem readOrNull_eq_null_iff_of_unresolved
    (unresolved : (resolve reference sample).isResolved = false) (row : Row) :
    readOrNull row (resolve reference sample) = .null ↔ ¬ row.HasAt reference := by
  rw [readOrNull, read_eq_follow, split_path_of_unresolved unresolved, Row.HasAt, Pointer.resolve]
  by_cases empty : Pointer.split reference = []
  · simp [empty]
  · rw [if_neg empty]
    cases Pointer.follow (.obj row) (Pointer.split reference) with
    | none => simp
    | some value => simp [empty]

/-- Among the rows that have nothing where an unresolved reference leads are those without other
fields than the sample row. -/
theorem not_hasAt_of_unresolved
    (unresolved : (resolve reference sample).isResolved = false) {row : Row}
    (sameFields : row.keys ⊆ sample.keys) :
    ¬ row.HasAt reference := by
  rintro ⟨given, value, found, _⟩
  obtain ⟨name, inside, named⟩ := List.exists_cons_of_ne_nil given
  have absent : name ∉ row.keys := fun isField =>
    not_mem_keys_of_unresolved unresolved named (sameFields isField)
  have notThere : row.lookup name = none := Row.find?_eq_none_iff.2 absent
  rw [Pointer.resolve, named, Pointer.follow, notThere] at found
  cases found

end Unresolved

end Field

/-! ## Rows of copied fields -/

namespace StepResult

variable {fields : List FieldSpec} (distinct : (fields.map (·.target)).Nodup)

include distinct

theorem keys_projectRow (sample row : Row) :
    (projectRow fields sample row).keys = fields.map (·.target) := by
  rw [projectRow, Row.keys_ofPairs]
  · rw [List.map_map]
    rfl
  · rwa [List.map_map]

theorem find?_projectRow
    {spec : FieldSpec} (member : spec ∈ fields) (sample row : Row) :
    (projectRow fields sample row).find? spec.target =
      some (Field.readOrNull row (Field.resolve spec.source sample)) := by
  apply Row.find?_setAll_of_mem
  · rwa [List.map_map]
  · exact List.mem_map_of_mem member

/-- A pointer to a copied field reads what was copied there. -/
theorem readOrNull_projectRow
    {origin : FieldSpec} (member : origin ∈ fields) (named : origin.target ≠ "") (sample row : Row) :
    Field.readOrNull (projectRow fields sample row)
        (Field.resolve (Pointer.join [origin.target]) (projectRow fields sample sample)) =
      Field.readOrNull row (Field.resolve origin.source sample) := by
  have isField : origin.target ∈ (projectRow fields sample sample).keys := by
    rw [keys_projectRow distinct]
    exact List.mem_map_of_mem member
  rw [Field.readOrNull_join_singleton named isField, find?_projectRow distinct member]
  rfl

end StepResult

/-! ## Fusion -/

/-- The copied field past an earlier selection: a source that points at one of the first fields gives
way to the source of that field. -/
def FieldSpec.through (first : List FieldSpec) (spec : FieldSpec) : FieldSpec :=
  match first.find? fun origin => Pointer.join [origin.target] == spec.source with
  | some origin => { spec with source := origin.source }
  | none => spec

@[simp]
theorem FieldSpec.target_through (first : List FieldSpec) (spec : FieldSpec) :
    (spec.through first).target = spec.target := by
  rw [through]
  split <;> rfl

theorem FieldSpec.through_eq
    {first : List FieldSpec} (distinct : (first.map (·.target)).Nodup) {spec origin : FieldSpec}
    (member : origin ∈ first) (pointed : spec.source = Pointer.join [origin.target]) :
    spec.through first = { spec with source := origin.source } := by
  rw [through]
  split
  · rename_i other found
    have sameTarget : other.target = origin.target := by
      have points := List.find?_some found
      have same := Pointer.join_injective (List.cons_ne_nil _ _) (List.cons_ne_nil _ _)
        ((eq_of_beq points).trans pointed)
      exact List.head_eq_of_cons_eq same
    have same : other = origin :=
      List.inj_on_of_nodup_map distinct (List.mem_of_find?_eq_some found) member sameTarget
    rw [same]
  · rename_i missing
    have points := List.find?_eq_none.1 missing origin member
    exact absurd (beq_iff_eq.2 pointed.symm) points

/-- The second of two selections is resolved against what the first one makes of the first row. -/
theorem StepResult.runFrom_selects
    (first second : List FieldSpec) (sample : Row) (rest : List Row) (groups : Option (List Group)) :
    runFrom ⟨sample :: rest, groups⟩ [.select first, .select second] =
      .ok (⟨(sample :: rest).map fun row =>
          projectRow second (projectRow first sample sample) (projectRow first sample row), groups⟩,
        notesOn (first.map (·.source)) sample ++
          notesOn (second.map (·.source)) (projectRow first sample sample)) := by
  have firstRan := select_eq first sample rest groups
  have secondRan :=
    select_eq second (projectRow first sample sample) (rest.map (projectRow first sample)) groups
  rw [runFrom_pair]
  refine Outcome.bind_eq_ok_iff.2 ⟨_, firstRan, Outcome.map_eq_ok_iff.2 ⟨_, secondRan, ?_⟩⟩
  simp only [List.map_cons, List.map_map, Function.comp_def]

/-- Copying fields twice is copying them once, past the first selection. -/
theorem StepResult.projectRow_through
    {first second : List FieldSpec} (distinct : (first.map (·.target)).Nodup)
    (named : ∀ origin ∈ first, origin.target ≠ "")
    (chained : ∀ spec ∈ second, ∃ origin ∈ first, spec.source = Pointer.join [origin.target])
    (sample row : Row) :
    projectRow second (projectRow first sample sample) (projectRow first sample row) =
      projectRow (second.map (·.through first)) sample row := by
  rw [projectRow, projectRow.eq_def (second.map _), List.map_map]
  refine congrArg Row.ofPairs (List.map_congr_left fun spec member => ?_)
  rcases chained spec member with ⟨origin, isOrigin, pointed⟩
  have copied := readOrNull_projectRow distinct isOrigin (named origin isOrigin) sample row
  rw [Function.comp_apply, FieldSpec.through_eq distinct isOrigin pointed, pointed, copied]

/-- A row that fields were copied to: it has exactly these fields, in order, each with the value of its
source, and null where the source is absent. A field with an unresolved source is null unless the row
has a value where the source leads as it is written, so it is null in the first row and in every row
without other fields. -/
structure Row.CopiedFrom (fields : List FieldSpec) (sample row copy : Row) : Prop where
  keys : copy.keys = fields.map (·.target)
  found : ∀ spec ∈ fields, ∀ value, Field.read row (Field.resolve spec.source sample) = some value →
    copy.find? spec.target = some value
  absent : ∀ spec ∈ fields, Field.read row (Field.resolve spec.source sample) = none →
    copy.find? spec.target = some .null
  unresolved : ∀ spec ∈ fields, (Field.resolve spec.source sample).isResolved = false →
    (copy.find? spec.target = some .null ↔ ¬ row.HasAt spec.source)
  unresolvedAlike : ∀ spec ∈ fields, (Field.resolve spec.source sample).isResolved = false →
    row.keys ⊆ sample.keys → copy.find? spec.target = some .null

theorem StepResult.copiedFrom_projectRow
    {fields : List FieldSpec} (distinct : (fields.map (·.target)).Nodup) (sample row : Row) :
    Row.CopiedFrom fields sample row (projectRow fields sample row) := by
  have unresolved (spec : FieldSpec) (member : spec ∈ fields)
      (missing : (Field.resolve spec.source sample).isResolved = false) :
      (projectRow fields sample row).find? spec.target = some .null ↔ ¬ row.HasAt spec.source := by
    rw [find?_projectRow distinct member, Option.some_inj]
    exact Field.readOrNull_eq_null_iff_of_unresolved missing row
  constructor
  case keys => exact keys_projectRow distinct sample row
  case found =>
    intro spec member value isRead
    rw [find?_projectRow distinct member, Field.readOrNull, isRead]
    rfl
  case absent =>
    intro spec member isAbsent
    rw [find?_projectRow distinct member, Field.readOrNull, isAbsent]
    rfl
  case unresolved => exact unresolved
  case unresolvedAlike =>
    intro spec member missing sameFields
    exact (unresolved spec member missing).2 (Field.not_hasAt_of_unresolved missing sameFields)

/--
A selection from the fields of another selection is a selection of its own: with the sources of the
first fields that it points at, it is valid and gives the same rows. Each of them has exactly the fields
of the second selection, in order.
-/
theorem Step.select_fuses
    {first second : List FieldSpec} {place other : String}
    {previous between between' next : Option Step}
    (valid : Check.step place previous between (.select first) = .ok [])
    (valid' : Check.step other between' next (.select second) = .ok [])
    (chained : ∀ spec ∈ second, ∃ origin ∈ first, spec.source = Pointer.join [origin.target]) :
    let fused := second.map (·.through first)
    List.Forall₂
        (fun spec through => through.target = spec.target ∧ ∃ origin ∈ first,
          spec.source = Pointer.join [origin.target] ∧ through.source = origin.source)
        second fused ∧
      Check.step place previous next (.select fused) = .ok [] ∧
      ∀ rows groups, ∃ copies notes fusedNotes,
        runFrom ⟨rows, groups⟩ [.select first, .select second] = .ok (⟨copies, groups⟩, notes) ∧
          runFrom ⟨rows, groups⟩ [.select fused] = .ok (⟨copies, groups⟩, fusedNotes) ∧
          List.Forall₂ (Row.CopiedFrom fused (Records.sample rows)) rows copies := by
  intro fused
  rcases (Check.step_eq_nil_iff _ _ _ _).1 valid with ⟨_, given, distinct⟩
  rcases (Check.step_eq_nil_iff _ _ _ _).1 valid' with ⟨some, given', distinct'⟩
  have paired : List.Forall₂
      (fun spec through => through.target = spec.target ∧ ∃ origin ∈ first,
        spec.source = Pointer.join [origin.target] ∧ through.source = origin.source)
      second fused := by
    rw [List.forall₂_map_right_iff, List.forall₂_same]
    intro spec member
    rcases chained spec member with ⟨origin, isOrigin, pointed⟩
    rw [FieldSpec.through_eq distinct isOrigin pointed]
    exact ⟨rfl, origin, isOrigin, pointed, rfl⟩
  have sameTargets : fused.map (·.target) = second.map (·.target) := by
    simp [fused, Function.comp_def]
  have distinctFused : (fused.map (·.target)).Nodup := sameTargets ▸ distinct'
  have fusedValid : (Step.select fused).Valid previous next := by
    refine ⟨by simpa [fused] using some, ?_, distinctFused⟩
    intro through member
    rcases List.mem_map.1 member with ⟨spec, isSpec, rfl⟩
    rcases chained spec isSpec with ⟨origin, isOrigin, pointed⟩
    rw [FieldSpec.through_eq distinct isOrigin pointed]
    exact ⟨(given origin isOrigin).1, (given' spec isSpec).2⟩
  refine ⟨paired, (Check.step_eq_nil_iff _ _ _ _).2 fusedValid, ?_⟩
  intro rows groups
  cases rows with
  | nil => exact ⟨[], [], [], rfl, rfl, .nil⟩
  | cons sample rest =>
      let copy := StepResult.projectRow fused sample
      have named : ∀ origin ∈ first, origin.target ≠ "" := fun origin member =>
        (given origin member).2
      have composed (row : Row) :
          StepResult.projectRow second (StepResult.projectRow first sample sample)
            (StepResult.projectRow first sample row) = copy row :=
        StepResult.projectRow_through distinct named chained sample row
      have ran := StepResult.runFrom_selects first second sample rest groups
      simp only [composed] at ran
      have ranFused := StepResult.select_eq fused sample rest groups
      refine ⟨(sample :: rest).map copy, _, _, ran, (runFrom_singleton _ _).trans ranFused, ?_⟩
      rw [List.forall₂_map_right_iff, List.forall₂_same]
      exact fun row _ => StepResult.copiedFrom_projectRow distinctFused sample row

/-- Two fields are renamed twice. One of the names has a slash, another one is the old name of the other
field; the second row has only one of the fields. -/
theorem Step.select_fuses_renamed :
    let first : List FieldSpec := [⟨"a", "p/q", none⟩, ⟨"b", "a", none⟩]
    let second : List FieldSpec := [⟨"/a", "p/q", none⟩, ⟨"/p~1q", "b", none⟩]
    let rows : List Row := [[("a", .ofInt 1), ("b", .ofInt 2)], [("a", .ofInt 3)]]
    Check.step "steps[0]" none (some (.select second)) (.select first) = .ok [] ∧
      Check.step "steps[1]" (some (.select first)) none (.select second) = .ok [] ∧
      (∀ spec ∈ second, ∃ origin ∈ first, spec.source = Pointer.join [origin.target]) ∧
      second.map (·.through first) = [⟨"b", "p/q", none⟩, ⟨"a", "b", none⟩] ∧
      ∃ copies notes fusedNotes,
        runFrom ⟨rows, none⟩ [.select first, .select second] = .ok (⟨copies, none⟩, notes) ∧
          runFrom ⟨rows, none⟩ [.select (second.map (·.through first))] =
            .ok (⟨copies, none⟩, fusedNotes) ∧
          copies =
            [[("p/q", .ofInt 2), ("b", .ofInt 1)], [("p/q", .null), ("b", .ofInt 3)]] := by
  have evaluated :
      runFrom ⟨[[("a", .ofInt 1), ("b", .ofInt 2)], [("a", .ofInt 3)]], none⟩
          [.select [⟨"a", "p/q", none⟩, ⟨"b", "a", none⟩],
            .select [⟨"/a", "p/q", none⟩, ⟨"/p~1q", "b", none⟩]] =
        .ok (⟨[[("p/q", .ofInt 2), ("b", .ofInt 1)], [("p/q", .null), ("b", .ofInt 3)]], none⟩,
          []) := by
    rfl
  intro first second rows
  have valid : Check.step "steps[0]" none (some (.select second)) (.select first) = .ok [] := by rfl
  have valid' : Check.step "steps[1]" (some (.select first)) none (.select second) = .ok [] := by rfl
  have chained : ∀ spec ∈ second, ∃ origin ∈ first, spec.source = Pointer.join [origin.target] := by
    simp only [first, second, List.forall_mem_cons, List.exists_mem_cons_iff]
    exact ⟨.inr (.inl (by decide)), .inl (by decide), nofun⟩
  rcases Step.select_fuses valid valid' chained with ⟨_, _, fuses⟩
  rcases fuses rows none with ⟨copies, notes, fusedNotes, ran, ranFused, _⟩
  refine ⟨valid, valid', chained, by rfl, copies, notes, fusedNotes, ran, ranFused, ?_⟩
  cases ran.symm.trans evaluated
  rfl

/-- A source that is unresolved in the first row gives the value of a later row. -/
theorem Step.select_unresolved_reads_later_row :
    let first : List FieldSpec := [⟨"b", "x", none⟩]
    let second : List FieldSpec := [⟨"/x", "y", none⟩]
    let rows : List Row := [[], [("b", .ofInt 2)]]
    Check.step "steps[0]" none (some (.select second)) (.select first) = .ok [] ∧
      Check.step "steps[1]" (some (.select first)) none (.select second) = .ok [] ∧
      "/x" = Pointer.join ["x"] ∧
      (Field.resolve "b" (Records.sample rows)).isResolved = false ∧
      ∃ notes, runFrom ⟨rows, none⟩ [.select first, .select second] =
        .ok (⟨[[("y", .null)], [("y", .ofInt 2)]], none⟩, notes) := by
  have named : Pointer.split "b" = ["b"] := by rfl
  have unresolved :
      Field.resolve "b" [] = ⟨"b", "b", "/b", some (.notFound "b" [])⟩ :=
    Field.resolve_nil named
  have copied (row : Row) :
      StepResult.projectRow [⟨"b", "x", none⟩] [] row =
        [("x", Field.readOrNull row ⟨"b", "b", "/b", some (.notFound "b" [])⟩)] := by
    simp only [StepResult.projectRow, List.map_cons, List.map_nil, unresolved]
    rfl
  have ran := StepResult.runFrom_selects [⟨"b", "x", none⟩] [⟨"/x", "y", none⟩]
    [] [[("b", .ofInt 2)]] none
  simp only [copied, List.map_cons, List.map_nil] at ran
  exact ⟨by rfl, by rfl, by rfl, congrArg Field.Resolution.isResolved unresolved, _, ran⟩

end RowPlan
