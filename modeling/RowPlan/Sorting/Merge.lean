/-!
# Merging runs

Two runs that follow one another are merged item by item, and by gallops where one of them gives many
items in a row: a gallop looks for the end of such a row at growing distances and then by halving. The
shorter run decides from which end they are merged; items that are in place already are left out.

A comparison always asks whether an item of the right run is below one of the left run. Its answers
alone decide what happens, so the outcome is defined for every comparison, consistent or not.
-/

namespace RowPlan.Sorting

variable {α : Type}

/-- The end from which two runs are merged. -/
inductive End where
  | front
  | back
deriving DecidableEq

/-- Half of a distance. Counted from the back, the middle is rounded the other way. -/
def End.half : End → Nat → Nat
  | front, distance => distance / 2
  | back, distance => (distance - 1) / 2

theorem End.half_lt (side : End) {distance : Nat} (some : 0 < distance) :
    side.half distance < distance := by
  cases side <;> simp only [half] <;> omega

/-! ## Looking for a place -/

/-- Look for the end of the items that pass a test by halving a range; the items below it have passed
and the one above it has not. -/
def bisect (side : End) (test : α → Bool) (items : List α) (low high : Nat) : Nat :=
  if _ : low < high then
    let middle := low + side.half (high - low)
    match items[middle]? with
    | some item =>
      if test item then bisect side test items (middle + 1) high
      else bisect side test items low middle
    | none => low
  else low
termination_by high - low
decreasing_by
  · omega
  · have := side.half_lt (by omega : 0 < high - low)
    omega

/-- Test items at growing distances, the next one at `next`, until one fails or the list ends. -/
def stride (test : α → Bool) (items : List α) (low next : Nat) : Nat × Nat :=
  match _ : items[next]? with
  | some item => if test item then stride test items (next + 1) (2 * next + 1) else (low, next)
  | none => (low, items.length)
termination_by items.length - next
decreasing_by
  have := (List.getElem?_eq_some_iff.1 ‹_›).1
  omega

/-- The number of items at the start of a list that pass a test, as a gallop finds it. -/
def gallop (side : End) (test : α → Bool) (items : List α) : Nat :=
  let range := stride test items 0 0
  bisect side test items range.1 range.2

/-! ## Merging from one end -/

/-- Merged from the front, the left run is the host and the right run the guest; from the back it is
the other way round, and both are read backwards. -/
inductive Role where
  | host
  | guest
deriving DecidableEq

/-- The role that gallops first. -/
def Role.first : End → Role
  | .front => host
  | .back => guest

/-- The other role. -/
def Role.other : Role → Role
  | host => guest
  | guest => host

/-- How a merge goes on. All gaits know how many items in a row make it gallop. -/
inductive Gait where
  /-- One item after the other; so many hosts or guests have come in a row. -/
  | walk (patience hosts guests : Nat)
  /-- A gallop of one role, the second of its round if the length of the first is given. -/
  | leap (patience : Nat) (role : Role) (before : Option Nat)
  /-- The item at which a gallop of the given length ends. -/
  | land (patience : Nat) (role : Role) (before : Option Nat) (length : Nat)

namespace Gait

/-- The patience of a gait. -/
def patience : Gait → Nat
  | walk patience _ _ => patience
  | leap patience _ _ => patience
  | land patience _ _ _ => patience

/-- The length from which a gallop is worth it. -/
def longGallop : Nat := 7

/-- The gait after a walk in which so many items of one role have come in a row. -/
def ofRow (side : End) (patience hosts guests : Nat) : Gait :=
  if patience ≤ hosts + guests then leap patience (Role.first side) none
  else walk patience hosts guests

/-- The gait after an item of the given role has been taken. Long gallops make patience shrink;
leaving off galloping makes it grow. -/
def next (side : End) (taken : Role) : Gait → Gait
  | walk patience hosts guests =>
    match taken with
    | .host => ofRow side patience (hosts + 1) 0
    | .guest => ofRow side patience 0 (guests + 1)
  | land patience role none length => leap patience role.other (some length)
  | land patience _ (some before) length =>
    if longGallop ≤ before ∨ longGallop ≤ length then
      leap (max (patience - 1) 1) (Role.first side) none
    else walk (patience + 1) 0 0
  | gait => gait

/-- One if a gallop is due, which takes no item by itself. -/
def toll : Gait → Nat
  | leap .. => 1
  | _ => 0

theorem toll_le_one (gait : Gait) : gait.toll ≤ 1 := by
  cases gait <;> simp [toll]

end Gait

/-- Merge guests into hosts; `passes` says whether a guest comes before a host. The last host comes
last. With the list goes the patience of the last gait. -/
def mingle (side : End) (passes : α → α → Bool) (patience : Nat) (gait : Gait) :
    List α → List α → List α × Nat
  | host :: second :: hosts, guest :: guests =>
    match gait with
    | .leap patience .host before =>
      let lead := gallop side (fun other => !passes guest other) (host :: second :: hosts)
      let rest := mingle side passes patience (.land patience .host before lead)
        ((host :: second :: hosts).drop lead) (guest :: guests)
      ((host :: second :: hosts).take lead ++ rest.1, rest.2)
    | .leap patience .guest before =>
      let lead := gallop side (fun other => passes other host) (guest :: guests)
      let rest := mingle side passes patience (.land patience .guest before lead)
        (host :: second :: hosts) ((guest :: guests).drop lead)
      ((guest :: guests).take lead ++ rest.1, rest.2)
    | gait =>
      if passes guest host then
        let rest := mingle side passes gait.patience (gait.next side .guest)
          (host :: second :: hosts) guests
        (guest :: rest.1, rest.2)
      else
        let rest := mingle side passes gait.patience (gait.next side .host)
          (second :: hosts) (guest :: guests)
        (host :: rest.1, rest.2)
  | hosts, guests => (guests ++ hosts, patience)
termination_by hosts guests => 2 * (hosts.length + guests.length) + gait.toll
decreasing_by
  all_goals simp only [List.length_cons, List.length_drop]
  · simp only [Gait.toll]
    omega
  · simp only [Gait.toll]
    omega
  · have := (gait.next side .guest).toll_le_one
    omega
  · have := (gait.next side .host).toll_le_one
    omega

/-- Merge guests into hosts, starting with the first guest. -/
def receive (side : End) (passes : α → α → Bool) (patience : Nat) (hosts guests : List α) :
    List α × Nat :=
  match guests with
  | [] => (hosts, patience)
  | guest :: guests =>
    let rest := mingle side passes patience (.walk patience 0 0) hosts guests
    (guest :: rest.1, rest.2)

/-! ## Merging runs -/

/-- Merge two runs of which the first guest is known to come first: from the front if the left run is
not the longer one, from the back otherwise. -/
def meld (lt : α → α → Bool) (patience : Nat) (left right : List α) : List α × Nat :=
  if left.length ≤ right.length then receive .front lt patience left right
  else
    let merged := receive .back (fun guest host => lt host guest) patience right.reverse left.reverse
    (merged.1.reverse, merged.2)

/-- Merge two runs that follow one another. Items of the left run that the right run does not pass
stay where they are, and so do items of the right run that do not pass the left run. -/
def mergeRuns (lt : α → α → Bool) (patience : Nat) (left right : List α) : List α × Nat :=
  match right.head? with
  | none => (left, patience)
  | some first =>
    let start := gallop .front (fun item => !lt first item) left
    match (left.drop start).getLast? with
    | none => (left ++ right, patience)
    | some last =>
      let rest := gallop .back (fun item => !lt item last) right.reverse
      let stop := right.length - rest
      let merged := meld lt patience (left.drop start) (right.take stop)
      (left.take start ++ merged.1 ++ right.drop stop, merged.2)

end RowPlan.Sorting
