import RowPlan.Sorting.Merge

/-!
# Sorting by runs

A list is sorted by cutting it into runs. A run goes as far as the items do not fall, or it falls all
the way and is turned round; a run that is too short is filled up by insertions. Runs are merged with
their neighbours in an order that keeps the lengths of merged runs balanced: the border between two
runs has a power, by the place where their middles part in the list, and borders of greater power go
first.
-/

namespace RowPlan.Sorting

variable {α : Type}

/-! ## Runs -/

/-- Insert an item into a run, behind every item that it is not below. -/
def insertItem (lt : α → α → Bool) (run : List α) (item : α) : List α :=
  let place := bisect .front (fun other => !lt item other) run 0 run.length
  run.take place ++ item :: run.drop place

/-- The longest run at the start of a list, after a first item, in which each item stands in the given
relation to the one before; and the rest. -/
def splitRun (follows : α → α → Bool) (last : α) : List α → List α × List α
  | [] => ([], [])
  | item :: rest =>
    if follows item last then
      let split := splitRun follows item rest
      (item :: split.1, split.2)
    else ([], item :: rest)

/-- The run at the start of a list with the given first item, and the rest: a falling run is turned
round, a rising one kept as it is. -/
def naturalRun (lt : α → α → Bool) (first : α) : List α → List α × List α
  | [] => ([first], [])
  | second :: rest =>
    if lt second first then
      let split := splitRun (fun item last => lt item last) second rest
      ((first :: second :: split.1).reverse, split.2)
    else
      let split := splitRun (fun item last => !lt item last) second rest
      (first :: second :: split.1, split.2)

/-- The next run and the rest; a run shorter than `least` is filled up by insertions. -/
def nextRun (lt : α → α → Bool) (least : Nat) (first : α) (items : List α) : List α × List α :=
  let natural := naturalRun lt first items
  let missing := least - natural.1.length
  ((natural.2.take missing).foldl (insertItem lt) natural.1, natural.2.drop missing)

/-- The least length of runs: the leading six binary digits of the number of items, one more if any
other digit is not zero. -/
def leastRun (carry total : Nat) : Nat :=
  if _ : 64 ≤ total then leastRun (max carry (total % 2)) (total / 2) else total + carry
termination_by total

/-! ## The order of merges -/

/-- The power of a border: how far the binary expansions of the middles of the runs on both sides, as
parts of the whole, have to be followed until they part. Middles are counted in halves of an item. -/
def power (total left right : Nat) : Nat :=
  if _ : left < right ∧ right - left < total ∧ left / total = right / total then
    power total (2 * left) (2 * right) + 1
  else 1
termination_by total - (right - left)

/-- Runs below the last one, the latest first, each with the power of the border after it. -/
abbrev Pending (α : Type) := List (List α × Nat)

/-- The number of items in the runs below the last one. -/
def Pending.items (pending : Pending α) : Nat :=
  pending.foldr (fun run items => run.1.length + items) 0

/-- Merge the last run with those below it as long as their borders have greater power than the next
one. -/
def settle (lt : α → α → Bool) (border patience : Nat) (last : List α) :
    Pending α → List α × Pending α × Nat
  | [] => (last, [], patience)
  | (run, power) :: below =>
    if border < power then
      let merged := mergeRuns lt patience run last
      settle lt border merged.2 merged.1 below
    else (last, (run, power) :: below, patience)

/-- Merge all runs that are left, the last two first unless the one below them is shorter than the
last one. -/
def collapse (lt : α → α → Bool) (patience : Nat) (last : List α) : Pending α → List α
  | [] => last
  | [(run, _)] => (mergeRuns lt patience run last).1
  | (run, _) :: (lower, power) :: below =>
    if lower.length < last.length then
      let merged := mergeRuns lt patience lower run
      collapse lt merged.2 last ((merged.1, power) :: below)
    else
      let merged := mergeRuns lt patience run last
      collapse lt merged.2 merged.1 ((lower, power) :: below)
termination_by below => below.length

/-! ## Sorting -/

theorem length_splitRun_le (follows : α → α → Bool) (last : α) (items : List α) :
    (splitRun follows last items).2.length ≤ items.length := by
  induction items generalizing last with
  | nil => simp [splitRun]
  | cons item rest later =>
      rw [splitRun]
      split
      · exact Nat.le_succ_of_le (later item)
      · exact Nat.le_refl _

theorem length_nextRun_le (lt : α → α → Bool) (least : Nat) (first : α) (items : List α) :
    (nextRun lt least first items).2.length ≤ items.length := by
  have natural : (naturalRun lt first items).2.length ≤ items.length := by
    cases items with
    | nil => simp [naturalRun]
    | cons second rest =>
        rw [naturalRun]
        split
        · exact Nat.le_succ_of_le (length_splitRun_le _ second rest)
        · exact Nat.le_succ_of_le (length_splitRun_le _ second rest)
  exact Nat.le_trans (List.length_drop ▸ Nat.sub_le _ _) natural

/-- Cut off run after run, and merge them in the order of their borders. -/
def sortRuns (lt : α → α → Bool) (total least patience : Nat) (last : List α) (pending : Pending α) :
    List α → List α
  | [] => collapse lt patience last pending
  | first :: items =>
    let next := nextRun lt least first items
    let middle := 2 * pending.items + last.length
    let border := power total middle (middle + last.length + next.1.length)
    let settled := settle lt border patience last pending
    sortRuns lt total least settled.2.2 next.1 ((settled.1, border) :: settled.2.1) next.2
termination_by items => items.length
decreasing_by
  exact Nat.lt_succ_of_le (length_nextRun_le lt least first items)

/-- Sort a list stably, upwards. -/
def sort (lt : α → α → Bool) : List α → List α
  | [] => []
  | first :: items =>
    let total := items.length + 1
    let least := leastRun 0 total
    let run := nextRun lt least first items
    sortRuns lt total least Gait.longGallop run.1 [] run.2

end RowPlan.Sorting
