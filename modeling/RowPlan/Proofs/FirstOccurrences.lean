import Mathlib.Data.List.Nodup

/-!
# Lists without their repetitions

Warnings and columns are reported once each, where they first occur. Leaving the repetitions out keeps
every item once, in the order of the first occurrences; leaving them out of a part first, or leaving other
items out before, makes no difference.
-/

namespace RowPlan

variable {α : Type} [BEq α] [LawfulBEq α]

omit [LawfulBEq α] in
/-- The recursion of `eraseDups` removes the head from the tail, and what holds by it holds of all
lists. -/
theorem eraseDups_induction
    {motive : List α → Prop} (nil : motive [])
    (cons : ∀ first rest, motive (rest.filter fun item => !item == first) → motive (first :: rest))
    (items : List α) :
    motive items := by
  induction length : items.length using Nat.strongRecOn generalizing items with
  | ind size shorter =>
      cases items with
      | nil => exact nil
      | cons first rest =>
          apply cons
          apply shorter _ _ _ rfl
          rw [← length]
          exact Nat.lt_succ_of_le (List.length_filter_le _ rest)

theorem nodup_eraseDups (items : List α) : items.eraseDups.Nodup := by
  induction items using eraseDups_induction with
  | nil => simp
  | cons first rest others =>
      rw [List.eraseDups_cons, List.nodup_cons]
      exact ⟨by simp [List.mem_eraseDups], others⟩

theorem eraseDups_of_nodup {items : List α} (distinct : items.Nodup) : items.eraseDups = items := by
  induction items with
  | nil => simp
  | cons first rest later =>
      rcases List.nodup_cons.1 distinct with ⟨absent, distinctRest⟩
      have kept : (rest.filter fun item => !item == first) = rest := by
        apply List.filter_eq_self.2
        intro item member
        have different : item ≠ first := fun same => absent (same ▸ member)
        simpa using different
      rw [List.eraseDups_cons, kept, later distinctRest]

/-- Leaving items out and leaving repetitions out may be done in either order. -/
theorem eraseDups_filter
    (keep : α → Bool) (items : List α) :
    (items.filter keep).eraseDups = items.eraseDups.filter keep := by
  induction items using eraseDups_induction with
  | nil => rfl
  | cons first rest others =>
      rw [List.eraseDups_cons, List.filter_cons, List.filter_cons]
      split
      · rw [List.eraseDups_cons, ← others, List.filter_filter, List.filter_filter]
        simp only [Bool.and_comm]
      · rename_i dropped
        rw [← others, List.filter_filter]
        congr 1
        apply List.filter_congr
        intro item member
        cases same : item == first with
        | false => simp
        | true =>
            rw [eq_of_beq same]
            simpa using dropped

@[simp]
theorem eraseDups_eraseDups
    (items : List α) :
    items.eraseDups.eraseDups = items.eraseDups := by
  induction items using eraseDups_induction with
  | nil => rfl
  | cons first rest others =>
      rw [List.eraseDups_cons, List.eraseDups_cons, ← eraseDups_filter, List.filter_filter]
      simp only [Bool.and_self]
      rw [others]

@[simp]
theorem eraseDups_append_left
    (first second : List α) :
    (first.eraseDups ++ second).eraseDups = (first ++ second).eraseDups := by
  have sameMembers : second.removeAll first.eraseDups = second.removeAll first := by
    rw [List.removeAll]
    apply List.filter_congr
    intro item _
    simp [List.mem_eraseDups]
  rw [List.eraseDups_append, List.eraseDups_append, eraseDups_eraseDups, sameMembers]

@[simp]
theorem eraseDups_append_right
    (first second : List α) :
    (first ++ second.eraseDups).eraseDups = (first ++ second).eraseDups := by
  rw [List.eraseDups_append, List.eraseDups_append]
  unfold List.removeAll
  rw [eraseDups_filter, eraseDups_eraseDups, ← eraseDups_filter]

/-- One more item is kept at the end, unless it occurs before. -/
theorem eraseDups_append_singleton
    (items : List α) (item : α) :
    (items ++ [item]).eraseDups =
      if item ∈ items then items.eraseDups else items.eraseDups ++ [item] := by
  rw [List.eraseDups_append]
  split
  · rename_i member
    simp [List.removeAll, member]
  · rename_i absent
    simp [List.removeAll, absent, List.eraseDups_cons]

/-- Leaving items out does not change which of two others occurs first. -/
theorem idxOf_lt_of_filter
    {keep : α → Bool} {items : List α} {item other : α} (kept : keep item = true)
    (otherKept : keep other = true)
    (before : (items.filter keep).idxOf item < (items.filter keep).idxOf other) :
    items.idxOf item < items.idxOf other := by
  induction items with
  | nil => exact absurd before (Nat.lt_irrefl 0)
  | cons first rest later =>
      cases keptFirst : keep first with
      | false =>
          have notItem : first ≠ item := by
            rintro rfl
            cases kept.symm.trans keptFirst
          have notOther : first ≠ other := by
            rintro rfl
            cases otherKept.symm.trans keptFirst
          rw [List.filter_cons_of_neg (by simp [keptFirst])] at before
          rw [List.idxOf_cons_ne rest notItem, List.idxOf_cons_ne rest notOther]
          exact Nat.succ_lt_succ (later before)
      | true =>
          rw [List.filter_cons_of_pos keptFirst] at before
          by_cases isOther : first = other
          · subst isOther
            rw [List.idxOf_cons_self] at before
            cases before
          · rw [List.idxOf_cons_ne rest isOther]
            rw [List.idxOf_cons_ne _ isOther] at before
            by_cases isItem : first = item
            · subst isItem
              rw [List.idxOf_cons_self]
              exact Nat.succ_pos _
            · rw [List.idxOf_cons_ne _ isItem] at before
              rw [List.idxOf_cons_ne rest isItem]
              exact Nat.succ_lt_succ (later (Nat.lt_of_succ_lt_succ before))

/-- What is left stands in the order of the first occurrences. -/
theorem pairwise_eraseDups (items : List α) :
    items.eraseDups.Pairwise fun item later => items.idxOf item < items.idxOf later := by
  induction items using eraseDups_induction with
  | nil => simp
  | cons first rest others =>
      have different {item : α}
          (member : item ∈ (rest.filter fun item => !item == first).eraseDups) : first ≠ item := by
        have kept := (List.mem_filter.1 (List.mem_eraseDups.1 member)).2
        rintro rfl
        simp at kept
      rw [List.eraseDups_cons, List.pairwise_cons]
      constructor
      · intro item member
        rw [List.idxOf_cons_self, List.idxOf_cons_ne rest (different member)]
        exact Nat.succ_pos _
      · apply others.imp_of_mem
        intro item later itemMember laterMember before
        have apart := different itemMember
        have laterApart := different laterMember
        rw [List.idxOf_cons_ne rest apart, List.idxOf_cons_ne rest laterApart]
        apply Nat.succ_lt_succ
        apply idxOf_lt_of_filter _ _ before
        · simpa using Ne.symm apart
        · simpa using Ne.symm laterApart

end RowPlan
