import Mathlib.Data.List.Forall2
import Mathlib.Data.List.Perm.Basic

/-!
# Outcomes that succeed

Readings, checks and runs return `Except`. A composed outcome succeeds exactly when its parts do, and
these lemmas take such a success apart, so that no later proof splits on a failure that it has
already excluded.
-/

namespace RowPlan

/-- Outcomes that are no failures. -/
def Outcome.Succeeds {ε α : Type} (outcome : Except ε α) : Prop := ∃ result, outcome = .ok result

namespace Outcome

variable {ε δ α β : Type}

theorem map_eq_ok_iff
    {f : α → β} {outcome : Except ε α} {result : β} :
    outcome.map f = .ok result ↔
      ∃ value, outcome = .ok value ∧ f value = result := by
  cases outcome with
  | error problem => simp [Except.map]
  | ok value => simp [Except.map]

theorem map_eq_error_iff
    {f : α → β} {outcome : Except ε α} {problem : ε} :
    outcome.map f = .error problem ↔ outcome = .error problem := by
  cases outcome with
  | error other => simp [Except.map]
  | ok value => simp [Except.map]

/-- Renaming the failures does not touch a success. -/
theorem mapError_eq_ok_iff
    {f : ε → δ} {outcome : Except ε α} {result : α} :
    outcome.mapError f = .ok result ↔ outcome = .ok result := by
  cases outcome with
  | error problem => exact iff_of_false nofun nofun
  | ok value => exact ⟨fun same => Except.ok.inj same ▸ rfl, fun same => Except.ok.inj same ▸ rfl⟩

/-- What is said of the result of a success, if there is one. -/
theorem toOption_map_eq_some_iff
    {f : α → β} {outcome : Except ε α} {result : β} :
    outcome.toOption.map f = some result ↔ ∃ value, outcome = .ok value ∧ f value = result := by
  cases outcome with
  | error problem => simp [Except.toOption]
  | ok value => simp [Except.toOption]

/-- A sequence of two outcomes succeeds when the second does on what the first gives. -/
theorem bind_eq_ok_iff
    {outcome : Except ε α} {next : α → Except ε β} {result : β} :
    (outcome >>= next) = .ok result ↔
      ∃ value, outcome = .ok value ∧ next value = .ok result := by
  cases outcome with
  | error problem => simp [bind, Except.bind]
  | ok value => simp [bind, Except.bind]

/-- A sequence of two outcomes fails when the first one does, or the second on what the first gives. -/
theorem bind_eq_error_iff
    {outcome : Except ε α} {next : α → Except ε β} {problem : ε} :
    (outcome >>= next) = .error problem ↔
      outcome = .error problem ∨ ∃ value, outcome = .ok value ∧ next value = .error problem := by
  cases outcome with
  | error other => simp [bind, Except.bind]
  | ok value => simp [bind, Except.bind]

theorem mapM_succeeds
    {f : α → Except ε β} {items : List α}
    (each : ∀ item ∈ items, ∃ result, f item = .ok result) :
    ∃ results, items.mapM f = .ok results := by
  induction items with
  | nil => exact ⟨[], rfl⟩
  | cons item rest others =>
      rcases each item List.mem_cons_self with ⟨result, itemResult⟩
      rcases others fun other member => each other (List.mem_cons_of_mem item member) with
        ⟨results, restResults⟩
      exact ⟨result :: results, by rw [List.mapM_cons, itemResult, restResults]; rfl⟩

/-- A list of outcomes succeeds with a list of results, one for each. -/
theorem mapM_eq_ok_iff
    {f : α → Except ε β} {items : List α} {results : List β} :
    items.mapM f = .ok results ↔
      List.Forall₂ (fun item result => f item = .ok result) items results := by
  induction items generalizing results with
  | nil =>
      rw [List.forall₂_nil_left_iff]
      exact ⟨fun done => (Except.ok.inj done).symm, fun none => none ▸ rfl⟩
  | cons item rest others =>
      rw [List.mapM_cons, bind_eq_ok_iff, List.forall₂_cons_left_iff]
      constructor
      · rintro ⟨result, itemResult, later⟩
        rcases bind_eq_ok_iff.1 later with ⟨restResults, restDone, done⟩
        exact ⟨result, restResults, itemResult, others.1 restDone, (Except.ok.inj done).symm⟩
      · rintro ⟨result, restResults, itemResult, restDone, rfl⟩
        exact ⟨result, itemResult, bind_eq_ok_iff.2 ⟨restResults, others.2 restDone, rfl⟩⟩

/-- Every result of a list of outcomes is the result of one of them. -/
theorem exists_of_mem_mapM
    {f : α → Except ε β} {items : List α} {results : List β} (done : items.mapM f = .ok results)
    {result : β} (member : result ∈ results) :
    ∃ item ∈ items, f item = .ok result := by
  induction mapM_eq_ok_iff.1 done with
  | nil => cases member
  | @cons item first rest more itemDone restDone others =>
      rcases List.mem_cons.1 member with rfl | later
      · exact ⟨item, List.mem_cons_self, itemDone⟩
      · rcases others (mapM_eq_ok_iff.2 restDone) later with ⟨other, otherMember, otherDone⟩
        exact ⟨other, List.mem_cons_of_mem item otherMember, otherDone⟩

/-- Every item of a list of outcomes has a result among those of the list. -/
theorem exists_mem_of_mapM
    {f : α → Except ε β} {items : List α} {results : List β} (done : items.mapM f = .ok results)
    {item : α} (member : item ∈ items) :
    ∃ result ∈ results, f item = .ok result := by
  rcases List.getElem_of_mem member with ⟨index, inside, rfl⟩
  have each := mapM_eq_ok_iff.1 done
  have resultInside := each.length_eq ▸ inside
  exact ⟨results[index], List.getElem_mem resultInside, each.get inside resultInside⟩

/-- Lists of outcomes are the same if each of them is. -/
theorem mapM_congr
    {f g : α → Except ε β} {items : List α} (same : ∀ item ∈ items, f item = g item) :
    items.mapM f = items.mapM g := by
  induction items with
  | nil => rfl
  | cons item rest others =>
      rw [List.forall_mem_cons] at same
      rw [List.mapM_cons, List.mapM_cons, same.1, others same.2]

theorem length_of_mapM
    {f : α → Except ε β} {items : List α} {results : List β} (done : items.mapM f = .ok results) :
    results.length = items.length :=
  (mapM_eq_ok_iff.1 done).length_eq.symm

/-- Two lists of outcomes of the same items give results in step with each other. -/
theorem forall₂_of_mapM
    {γ : Type} {f : α → Except ε β} {g : α → Except δ γ} {related : β → γ → Prop} {items : List α}
    {results : List β} {others : List γ} (done : items.mapM f = .ok results)
    (otherDone : items.mapM g = .ok others)
    (each : ∀ item ∈ items, ∀ result other, f item = .ok result → g item = .ok other →
      related result other) :
    List.Forall₂ related results others := by
  rw [mapM_eq_ok_iff] at done otherDone
  induction done generalizing others with
  | nil =>
      cases otherDone
      exact .nil
  | cons first rest later =>
      rcases List.forall₂_cons_left_iff.1 otherDone with ⟨other, more, otherFirst, otherRest, rfl⟩
      rw [List.forall_mem_cons] at each
      exact .cons (each.1 _ _ first otherFirst) (later otherRest each.2)

/-- The outcomes of reordered items are reordered alike. -/
theorem mapM_perm
    {f : α → Except ε β} {items others : List α} (reordered : items.Perm others) {results : List β}
    (done : items.mapM f = .ok results) :
    ∃ more, others.mapM f = .ok more ∧ results.Perm more := by
  rcases List.perm_comp_forall₂ reordered.symm (mapM_eq_ok_iff.1 done) with ⟨more, each, same⟩
  exact ⟨more, mapM_eq_ok_iff.2 each, same.symm⟩

/-- The first results of a list of outcomes are those of the first items. -/
theorem mapM_take
    {f : α → Except ε β} {items : List α} {results : List β} (done : items.mapM f = .ok results)
    (count : Nat) :
    (items.take count).mapM f = .ok (results.take count) :=
  mapM_eq_ok_iff.2 (List.forall₂_take count (mapM_eq_ok_iff.1 done))

/-- Two passes over a list are one pass that does both. -/
theorem mapM_bind_eq_ok_iff
    {γ : Type} {f : α → Except ε β} {g : β → Except ε γ} {items : List α} {results : List γ} :
    items.mapM (fun item => f item >>= g) = .ok results ↔
      ∃ values, items.mapM f = .ok values ∧ values.mapM g = .ok results := by
  simp only [mapM_eq_ok_iff]
  induction items generalizing results with
  | nil => simp
  | cons item rest others =>
      simp only [List.forall₂_cons_left_iff, others]
      simp only [bind_eq_ok_iff]
      constructor
      · rintro ⟨result, more, ⟨value, first, second⟩, ⟨values, firstRest, secondRest⟩, rfl⟩
        exact ⟨value :: values, ⟨value, values, first, firstRest, rfl⟩, .cons second secondRest⟩
      · rintro ⟨_, ⟨value, values, first, firstRest, rfl⟩, both⟩
        rcases List.forall₂_cons_left_iff.1 both with ⟨result, more, second, secondRest, rfl⟩
        exact ⟨result, more, ⟨value, first, second⟩, ⟨values, firstRest, secondRest⟩, rfl⟩

/-- What is done to every result can be done at the end. -/
theorem mapM_map
    {γ : Type} (f : α → Except ε β) (g : β → γ) (items : List α) :
    items.mapM (fun item => (f item).map g) = (items.mapM f).map (List.map g) := by
  induction items with
  | nil => rfl
  | cons item rest others =>
      rw [List.mapM_cons, List.mapM_cons, others]
      cases f item with
      | error problem => rfl
      | ok result => cases rest.mapM f <;> rfl

/-- Accumulating over a list succeeds if every item does, whatever has been accumulated before. -/
theorem foldlM_succeeds
    {f : β → α → Except ε β} {items : List α}
    (each : ∀ item ∈ items, ∀ before, ∃ after, f before item = .ok after)
    (start : β) :
    ∃ result, items.foldlM f start = .ok result := by
  induction items generalizing start with
  | nil => exact ⟨start, rfl⟩
  | cons item rest others =>
      rcases each item List.mem_cons_self start with ⟨after, step⟩
      rcases others (fun other member => each other (List.mem_cons_of_mem item member)) after with
        ⟨result, restResult⟩
      exact ⟨result, by rw [List.foldlM_cons, step]; exact restResult⟩

/-! ## Succeeding -/

@[simp]
theorem succeeds_ok (result : α) : Succeeds (.ok result : Except ε α) := ⟨result, rfl⟩

@[simp]
theorem not_succeeds_error (problem : ε) : ¬ Succeeds (.error problem : Except ε α) := nofun

@[simp]
theorem succeeds_map_iff {f : α → β} {outcome : Except ε α} :
    Succeeds (outcome.map f) ↔ Succeeds outcome := by
  cases outcome <;> simp [Except.map]

@[simp]
theorem succeeds_mapError_iff {f : ε → δ} {outcome : Except ε α} :
    Succeeds (outcome.mapError f) ↔ Succeeds outcome := by
  cases outcome <;> simp [Except.mapError]

theorem succeeds_bind_iff {outcome : Except ε α} {next : α → Except ε β} :
    Succeeds (outcome >>= next) ↔ ∃ value, outcome = .ok value ∧ Succeeds (next value) := by
  cases outcome <;> simp [bind, Except.bind]

@[simp]
theorem succeeds_bind_ok_iff {f : α → β} {outcome : Except ε α} :
    Succeeds (outcome >>= fun value => .ok (f value)) ↔ Succeeds outcome := by
  cases outcome <;> simp [bind, Except.bind]

/-- A list of outcomes succeeds if each of them does. -/
theorem succeeds_mapM_iff {f : α → Except ε β} {items : List α} :
    Succeeds (items.mapM f) ↔ ∀ item ∈ items, Succeeds (f item) := by
  refine ⟨fun ⟨results, done⟩ item member => ?_, mapM_succeeds⟩
  rcases List.getElem_of_mem member with ⟨index, inside, rfl⟩
  have each := mapM_eq_ok_iff.1 done
  exact ⟨_, each.get inside (each.length_eq ▸ inside)⟩

/-! ## Failing for one cause -/

/-- The only failure of an outcome is a certain problem, and it has it if and only if there is a certain
cause. -/
def FailsFor (outcome : Except ε α) (problem : ε) (cause : Prop) : Prop :=
  ∀ other, outcome = .error other ↔ other = problem ∧ cause

namespace FailsFor

variable {problem : ε} {outcome : Except ε α} {cause : Prop}

theorem succeeds_iff (fails : FailsFor outcome problem cause) : Succeeds outcome ↔ ¬ cause := by
  cases outcome with
  | ok result => exact iff_of_true (succeeds_ok result) fun holds => nomatch (fails problem).2 ⟨rfl, holds⟩
  | error other => exact iff_of_false nofun (not_not.2 ((fails other).1 rfl).2)

theorem eq_error (fails : FailsFor outcome problem cause) (holds : cause) : outcome = .error problem :=
  (fails problem).2 ⟨rfl, holds⟩

theorem congr {other : Prop} (fails : FailsFor outcome problem cause) (same : cause ↔ other) :
    FailsFor outcome problem other :=
  propext same ▸ fails

protected theorem ok (result : α) (problem : ε) : FailsFor (.ok result) problem False := by
  simp [FailsFor]

theorem of_not (noCause : ¬ cause) (result : α) : FailsFor (.ok result) problem cause :=
  (FailsFor.ok result problem).congr (iff_of_false id noCause)

protected theorem error (holds : cause) : FailsFor (.error problem : Except ε α) problem cause := by
  simp [FailsFor, holds, eq_comm]

protected theorem map (f : α → β) (fails : FailsFor outcome problem cause) :
    FailsFor (outcome.map f) problem cause :=
  fun other => map_eq_error_iff.trans (fails other)

protected theorem bind_ok (f : α → β) (fails : FailsFor outcome problem cause) :
    FailsFor (outcome >>= fun result => .ok (f result)) problem cause :=
  fails.map f

protected theorem mapError (f : ε → δ) (fails : FailsFor outcome problem cause) :
    FailsFor (outcome.mapError f) (f problem) cause := by
  intro other
  cases outcome with
  | ok result =>
      have noCause : ¬ cause := fails.succeeds_iff.1 (succeeds_ok result)
      simp [Except.mapError, noCause]
  | error found =>
      rcases (fails found).1 rfl with ⟨rfl, holds⟩
      simp [Except.mapError, holds, eq_comm]

/-- A sequence fails for what the first outcome fails for, or the second on what the first gives. -/
protected theorem bind
    {next : α → Except ε β} {later : α → Prop} (fails : FailsFor outcome problem cause)
    (nextFails : ∀ result, outcome = .ok result → FailsFor (next result) problem (later result)) :
    FailsFor (outcome >>= next) problem (cause ∨ ∃ result, outcome = .ok result ∧ later result) := by
  intro other
  rw [bind_eq_error_iff, fails other]
  constructor
  · rintro (⟨rfl, holds⟩ | ⟨result, found, failed⟩)
    · exact ⟨rfl, .inl holds⟩
    · rcases (nextFails result found other).1 failed with ⟨rfl, holds⟩
      exact ⟨rfl, .inr ⟨result, found, holds⟩⟩
  · rintro ⟨rfl, holds | ⟨result, found, holds⟩⟩
    · exact .inl ⟨rfl, holds⟩
    · exact .inr ⟨result, found, (nextFails result found other).2 ⟨rfl, holds⟩⟩

/-- A list of outcomes fails for what one of them fails for. -/
protected theorem mapM
    {f : α → Except ε β} {items : List α} {causes : α → Prop}
    (each : ∀ item ∈ items, FailsFor (f item) problem (causes item)) :
    FailsFor (items.mapM f) problem (∃ item ∈ items, causes item) := by
  induction items with
  | nil => exact (FailsFor.ok [] problem).congr (by simp)
  | cons item rest later =>
      rw [List.forall_mem_cons] at each
      rw [List.mapM_cons]
      have others (result : β) :
          FailsFor (rest.mapM f >>= fun results => pure (result :: results)) problem
            (∃ item ∈ rest, causes item) :=
        (later each.2).map (List.cons result)
      refine (each.1.bind fun result _ => others result).congr ?_
      simp only [List.mem_cons, exists_eq_or_imp]
      by_cases first : causes item
      · simp [first]
      · have found := each.1.succeeds_iff.2 first
        rcases found with ⟨result, found⟩
        simp [first, found]

end FailsFor

end Outcome

end RowPlan
