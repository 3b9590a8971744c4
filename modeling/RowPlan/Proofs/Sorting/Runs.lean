import RowPlan.Proofs.Sorting.Merge
import RowPlan.Sorting.Runs

/-!
# What sorting by runs keeps

A sorted list has the items of the given one, and any two neighbours in it have been compared: the one
that came later is below the other if it comes first, and not below it if it comes second. This holds
for every comparison. Where the comparison is an order, neighbours decide about all pairs, so the list
is sorted and sorted stably; where it is not, nothing more can be said in general.
-/

namespace RowPlan.Sorting

variable {α : Type} {lt : α → α → Bool} {earlier : α → α → Prop}

/-- A run of some items: all of them, with neighbours in order. -/
structure Arranged (lt : α → α → Bool) (earlier : α → α → Prop) (items run : List α) : Prop where
  perm : run.Perm items
  chain : List.IsChain (InOrder lt earlier) run

/-! ## Single runs -/

theorem Arranged.insertItem
    {items run : List α} (arranged : Arranged lt earlier items run) {item : α}
    (last : ∀ other ∈ items, earlier other item) :
    Arranged lt earlier (items ++ [item]) (insertItem lt run item) := by
  have place : Boundary (fun other => !lt item other) run
      (bisect .front (fun other => !lt item other) run 0 run.length) :=
    bisect_boundary (Nat.zero_le _) (Nat.le_refl _) (by simp) (by simp)
  have fromRun {other : α} (member : other ∈ run) : earlier other item :=
    last other (arranged.perm.mem_iff.1 member)
  unfold Sorting.insertItem
  generalize bisect .front (fun other => !lt item other) run 0 run.length = count at place ⊢
  constructor
  · calc
      (run.take count ++ item :: run.drop count).Perm (item :: (run.take count ++ run.drop count)) :=
        List.perm_middle
      _ = item :: run := by rw [List.take_append_drop]
      List.Perm _ (item :: items) := arranged.perm.cons item
      List.Perm _ (items ++ [item]) := (List.perm_append_singleton item items).symm
  · refine List.isChain_append.2 ⟨arranged.chain.take count,
      List.isChain_cons.2 ⟨?_, arranged.chain.drop count⟩, ?_⟩
    · intro next isNext
      exact .inr ⟨fromRun (List.mem_of_mem_drop (List.mem_of_head? isNext)),
        by simpa using place.failed next isNext⟩
    · intro other isLast next isItem
      cases isItem
      exact .inl ⟨fromRun (List.mem_of_mem_take (List.mem_of_getLast? isLast)),
        by simpa using place.passed other isLast⟩

/-- Items may be inserted one after the other. -/
theorem Arranged.insertItems
    {items run : List α} (arranged : Arranged lt earlier items run) {more : List α}
    (inTurn : (items ++ more).Pairwise earlier) :
    Arranged lt earlier (items ++ more) (more.foldl (Sorting.insertItem lt) run) := by
  induction more generalizing items run with
  | nil => simpa using arranged
  | cons item more later =>
      have last : ∀ other ∈ items, earlier other item := fun other member =>
        (List.pairwise_append.1 inTurn).2.2 other member item List.mem_cons_self
      rw [List.append_cons] at inTurn ⊢
      exact later (arranged.insertItem last) inTurn

theorem splitRun_append (follows : α → α → Bool) (last : α) (items : List α) :
    (splitRun follows last items).1 ++ (splitRun follows last items).2 = items := by
  induction items generalizing last with
  | nil => rfl
  | cons item rest later =>
      rw [splitRun]
      split
      · exact congrArg (item :: ·) (later item)
      · rfl

theorem isChain_splitRun (follows : α → α → Bool) (last : α) (items : List α) :
    List.IsChain (fun last item => follows item last = true)
      (last :: (splitRun follows last items).1) := by
  induction items generalizing last with
  | nil => exact .singleton last
  | cons item rest later =>
      rw [splitRun]
      split
      · rename_i next
        exact .cons_cons next (later item)
      · exact .singleton last

theorem splitRun_of_isChain
    {follows : α → α → Bool} {last : α} {items : List α}
    (chain : List.IsChain (fun last item => follows item last = true) (last :: items)) :
    splitRun follows last items = (items, []) := by
  induction items generalizing last with
  | nil => rfl
  | cons item rest later =>
      rcases List.isChain_cons_cons.1 chain with ⟨next, chain⟩
      rw [splitRun, if_pos next, later chain]

/-- Neighbours that compare in one way, in a list in which each item comes earlier than the next. -/
theorem isChain_and
    {R : α → α → Prop} {items : List α} (chain : List.IsChain R items)
    (inTurn : items.Pairwise earlier) :
    List.IsChain (fun last item => earlier last item ∧ R last item) items := by
  induction chain with
  | nil => exact .nil
  | singleton item => exact .singleton item
  | cons_cons next _ later =>
      rcases List.pairwise_cons.1 inTurn with ⟨first, inTurn⟩
      exact .cons_cons ⟨first _ List.mem_cons_self, next⟩ (later inTurn)

/-- The run at the start of a list arranges the items that it takes. -/
theorem naturalRun_arranged
    (first : α) (items : List α) (inTurn : (first :: items).Pairwise earlier) :
    ∃ used, used ++ (naturalRun lt first items).2 = first :: items ∧
      Arranged lt earlier used (naturalRun lt first items).1 := by
  cases items with
  | nil => exact ⟨[first], rfl, .refl _, .singleton first⟩
  | cons second rest =>
      rw [naturalRun]
      split
      · rename_i falls
        have run := isChain_splitRun (fun item last => lt item last) second rest
        have cut := splitRun_append (fun item last => lt item last) second rest
        generalize splitRun (fun item last => lt item last) second rest = split at run cut ⊢
        have falling :
            List.IsChain (fun last item => lt item last = true) (first :: second :: split.1) :=
          .cons_cons falls run
        refine ⟨first :: second :: split.1, by simp [cut], List.reverse_perm _, ?_⟩
        rw [← cut, ← List.cons_append, ← List.cons_append] at inTurn
        refine List.isChain_reverse.2 ((isChain_and falling (List.pairwise_append.1 inTurn).1).imp ?_)
        exact fun _ _ both => .inr both
      · rename_i rises
        have run := isChain_splitRun (fun item last => !lt item last) second rest
        have cut := splitRun_append (fun item last => !lt item last) second rest
        generalize splitRun (fun item last => !lt item last) second rest = split at run cut ⊢
        have rising :
            List.IsChain (fun last item => (!lt item last) = true) (first :: second :: split.1) :=
          .cons_cons (by simpa using rises) run
        refine ⟨first :: second :: split.1, by simp [cut], .refl _, ?_⟩
        rw [← cut, ← List.cons_append, ← List.cons_append] at inTurn
        refine (isChain_and rising (List.pairwise_append.1 inTurn).1).imp ?_
        exact fun _ _ both => .inl ⟨both.1, by simpa using both.2⟩

/-- The next run arranges the items that it takes. -/
theorem nextRun_arranged
    (least : Nat) (first : α) (items : List α) (inTurn : (first :: items).Pairwise earlier) :
    ∃ used, used ++ (nextRun lt least first items).2 = first :: items ∧
      Arranged lt earlier used (nextRun lt least first items).1 := by
  rcases naturalRun_arranged first items inTurn with ⟨used, cut, arranged⟩
  unfold nextRun
  dsimp only
  generalize naturalRun lt first items = natural at cut arranged ⊢
  generalize least - natural.1.length = missing
  have joined : used ++ natural.2.take missing ++ natural.2.drop missing = first :: items := by
    rw [List.append_assoc, List.take_append_drop, cut]
  refine ⟨used ++ natural.2.take missing, joined, arranged.insertItems ?_⟩
  rw [← joined] at inTurn
  exact (List.pairwise_append.1 inTurn).1

theorem Arranged.mergeRuns
    {patience : Nat} {items more left right : List α}
    (arrangedLeft : Arranged lt earlier items left) (arrangedRight : Arranged lt earlier more right)
    (inTurn : (items ++ more).Pairwise earlier) :
    Arranged lt earlier (items ++ more) (mergeRuns lt patience left right).1 where
  perm := mergeRuns_perm.trans (arrangedLeft.perm.append arrangedRight.perm)
  chain := by
    refine isChain_mergeRuns ?_ arrangedLeft.chain arrangedRight.chain
    intro first firstMember second secondMember
    exact (List.pairwise_append.1 inTurn).2.2 first (arrangedLeft.perm.mem_iff.1 firstMember)
      second (arrangedRight.perm.mem_iff.1 secondMember)

/-! ## Pending runs -/

/-- Pending runs that arrange the items of a list, from the front to the last pending run. -/
inductive Stacked (lt : α → α → Bool) (earlier : α → α → Prop) : List α → Pending α → Prop where
  | nil : Stacked lt earlier [] []
  | cons {items more : List α} {pending : Pending α} {run : List α} (power : Nat) :
      Stacked lt earlier items pending → Arranged lt earlier more run →
      Stacked lt earlier (items ++ more) ((run, power) :: pending)

/-- Merges on the top of the pending runs only move the border between them and the last run. -/
theorem settle_stacked
    {border patience : Nat} {items lastItems last : List α} {pending : Pending α}
    (stacked : Stacked lt earlier items pending) (arranged : Arranged lt earlier lastItems last)
    (inTurn : (items ++ lastItems).Pairwise earlier) :
    ∃ below top, below ++ top = items ++ lastItems ∧
      Stacked lt earlier below (settle lt border patience last pending).2.1 ∧
      Arranged lt earlier top (settle lt border patience last pending).1 := by
  induction stacked generalizing lastItems last patience with
  | nil => exact ⟨[], lastItems, rfl, .nil, arranged⟩
  | @cons items more pending run power stacked arrangedRun later =>
      rw [settle]
      split
      · rw [List.append_assoc] at inTurn ⊢
        exact later (arrangedRun.mergeRuns arranged (List.pairwise_append.1 inTurn).2.1) inTurn
      · exact ⟨items ++ more, lastItems, rfl, .cons power stacked arrangedRun, arranged⟩

theorem stacked_cons_iff
    {items : List α} {run : List α} {power : Nat} {pending : Pending α} :
    Stacked lt earlier items ((run, power) :: pending) ↔
      ∃ below top, below ++ top = items ∧
        Stacked lt earlier below pending ∧ Arranged lt earlier top run := by
  constructor
  · rintro (_ | ⟨_, stacked, arranged⟩)
    exact ⟨_, _, rfl, stacked, arranged⟩
  · rintro ⟨below, top, rfl, stacked, arranged⟩
    exact .cons power stacked arranged

/-- Merging all pending runs arranges all items. -/
theorem collapse_arranged
    (patience : Nat) (last : List α) (pending : Pending α) :
    ∀ {items lastItems : List α}, Stacked lt earlier items pending →
      Arranged lt earlier lastItems last → (items ++ lastItems).Pairwise earlier →
      Arranged lt earlier (items ++ lastItems) (collapse lt patience last pending) := by
  fun_induction collapse lt patience last pending with
  | case1 patience last =>
      rintro _ _ ⟨⟩ arranged _
      exact arranged
  | case2 patience last run _ =>
      intro items lastItems stacked arranged inTurn
      rcases stacked_cons_iff.1 stacked with ⟨_, top, rfl, ⟨⟩, arrangedRun⟩
      exact arrangedRun.mergeRuns arranged inTurn
  | case3 patience last run _ lower power below =>
      rename_i merged later
      intro items lastItems stacked arranged inTurn
      rcases stacked_cons_iff.1 stacked with ⟨_, top, rfl, stacked, arrangedRun⟩
      rcases stacked_cons_iff.1 stacked with ⟨_, lowerTop, rfl, stacked, arrangedLower⟩
      rw [List.append_assoc _ lowerTop] at inTurn ⊢
      refine later (.cons power stacked (arrangedLower.mergeRuns arrangedRun ?_)) arranged inTurn
      exact (List.pairwise_append.1 (List.pairwise_append.1 inTurn).1).2.1
  | case4 patience last run _ lower power below =>
      rename_i merged later
      intro items lastItems stacked arranged inTurn
      rcases stacked_cons_iff.1 stacked with ⟨_, top, rfl, stacked, arrangedRun⟩
      rw [List.append_assoc] at inTurn ⊢
      exact later stacked
        (arrangedRun.mergeRuns arranged (List.pairwise_append.1 inTurn).2.1) inTurn

/-! ## Sorting -/

/-- From any pending runs, cutting off the runs that are left and merging arranges all items. -/
theorem sortRuns_arranged
    (total least patience : Nat) (last : List α) (pending : Pending α) (rest : List α) :
    ∀ {items lastItems : List α}, Stacked lt earlier items pending →
      Arranged lt earlier lastItems last → (items ++ lastItems ++ rest).Pairwise earlier →
      Arranged lt earlier (items ++ lastItems ++ rest)
        (sortRuns lt total least patience last pending rest) := by
  fun_induction sortRuns lt total least patience last pending rest with
  | case1 patience last pending =>
      intro items lastItems stacked arranged inTurn
      rw [List.append_nil] at inTurn ⊢
      exact collapse_arranged patience last pending stacked arranged inTurn
  | case2 patience last pending first rest =>
      rename_i next middle border settled later
      intro items lastItems stacked arranged inTurn
      rcases List.pairwise_append.1 inTurn with ⟨before, after, _⟩
      rcases settle_stacked stacked arranged before with ⟨below, top, cut, stacked, arranged⟩
      rcases nextRun_arranged least first rest after with ⟨used, taken, arrangedNext⟩
      rw [← cut, ← taken, ← List.append_assoc] at inTurn ⊢
      exact later (.cons border stacked arranged) arrangedNext inTurn

/-- A sorted list has the items of the given one, with neighbours in order. -/
theorem sort_arranged {items : List α} (inTurn : items.Pairwise earlier) :
    Arranged lt earlier items (sort lt items) := by
  cases items with
  | nil => exact ⟨.refl _, .nil⟩
  | cons first items =>
      rcases nextRun_arranged (leastRun 0 (items.length + 1)) first items inTurn with
        ⟨used, cut, arranged⟩
      have sorted : Arranged lt earlier
          ([] ++ used ++ (nextRun lt (leastRun 0 (items.length + 1)) first items).2)
          (sort lt (first :: items)) :=
        sortRuns_arranged _ _ _ _ _ _ .nil arranged (by rwa [List.nil_append, cut])
      rwa [List.nil_append, cut] at sorted

/-- A list that nowhere falls is one run, and comes out as it is. -/
theorem sort_eq_self
    {items : List α} (rising : List.IsChain (fun last item => lt item last = false) items) :
    sort lt items = items := by
  cases items with
  | nil => rfl
  | cons first items =>
      have whole : naturalRun lt first items = (first :: items, []) := by
        cases items with
        | nil => rfl
        | cons second rest =>
            rcases List.isChain_cons_cons.1 rising with ⟨step, chain⟩
            rw [naturalRun, if_neg (Bool.eq_false_iff.1 step),
              splitRun_of_isChain (chain.imp fun _ _ notBelow => by rw [notBelow]; rfl)]
      have single (least : Nat) : nextRun lt least first items = (first :: items, []) := by
        simp [nextRun, whole]
      simp only [sort, single, sortRuns, collapse]

end RowPlan.Sorting
