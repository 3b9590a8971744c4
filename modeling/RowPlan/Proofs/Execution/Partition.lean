import Mathlib.Data.List.Perm.Basic

/-!
# Partitions of lists

Groups partition a list by an agreement between its items when each item lands in exactly one group,
the items of one group agree and items of different groups do not. Groups stand in the order of their
first items, and the items of a group in the order of the list.

A partition grows with its list. A new last item joins the group that it agrees with, or else makes a
group of its own at the end, and both keep a partition. This needs an agreement that is an equivalence
on the items at hand, not on everything.
-/

namespace RowPlan

variable {α : Type}

/-- An agreement is an equivalence on the items that a property admits. -/
structure EquivalenceOn (admits : α → Prop) (agree : α → α → Prop) : Prop where
  refl : ∀ {a}, admits a → agree a a
  symm : ∀ {a b}, admits a → agree a b → agree b a
  trans : ∀ {a b c}, admits a → agree a b → agree b c → agree a c

/-- In a list of items, an item of one group comes before all items of another one. -/
def StartsBefore (items earlier later : List α) : Prop :=
  ∃ before first after,
    items = before ++ first :: after ∧ first ∈ earlier ∧ ∀ item ∈ before, item ∉ later

/-- Groups partition a list of items by an agreement. -/
structure Partitions (agree : α → α → Prop) (items : List α) (groups : List (List α)) : Prop where
  complete : groups.flatten.Perm items
  together : ∀ group ∈ groups, ∀ a ∈ group, ∀ b ∈ group, agree a b
  apart : groups.Pairwise fun earlier later => ∀ a ∈ earlier, ∀ b ∈ later, ¬ agree a b
  byFirst : groups.Pairwise (StartsBefore items)
  inOrder : ∀ group ∈ groups, group.Sublist items
  nonempty : ∀ group ∈ groups, group ≠ []

/-- What holds of the items of a list holds of them when one item is replaced by another one. -/
theorem forall_mem_replace
    {holds : α → Prop} {before after : List α} {old new : α}
    (whole : ∀ a ∈ before ++ old :: after, holds a) (replaced : holds old → holds new) :
    ∀ a ∈ before ++ new :: after, holds a := by
  rw [List.forall_mem_append, List.forall_mem_cons] at whole ⊢
  exact ⟨whole.1, replaced whole.2.1, whole.2.2⟩

/-- A group may take the place of another one in a list of groups that stand in a relation. -/
theorem pairwise_replace
    {R S : α → α → Prop} {before after : List α} {old new : α}
    (whole : (before ++ old :: after).Pairwise R) (others : ∀ a b, R a b → S a b)
    (left : ∀ a ∈ before, R a old → S a new) (right : ∀ b ∈ after, R old b → S new b) :
    (before ++ new :: after).Pairwise S := by
  rw [List.pairwise_append, List.pairwise_cons] at whole ⊢
  rcases whole with ⟨beforeWhole, ⟨oldAfter, afterWhole⟩, across⟩
  refine ⟨beforeWhole.imp (others _ _), ⟨?_, afterWhole.imp (others _ _)⟩, ?_⟩
  · intro b inAfter
    exact right b inAfter (oldAfter b inAfter)
  · intro a inBefore b member
    rcases List.mem_cons.1 member with rfl | inAfter
    · exact left a inBefore (across a inBefore old List.mem_cons_self)
    · exact others a b (across a inBefore b (List.mem_cons_of_mem old inAfter))

/-- A new last item does not change which of two groups starts before the other, as long as the later
one does not gain an item that was there already. -/
theorem StartsBefore.extend
    {items earlier later earlier' later' : List α} (starts : StartsBefore items earlier later)
    (included : earlier ⊆ earlier') (notGained : ∀ a ∈ items, a ∈ later' → a ∈ later) (item : α) :
    StartsBefore (items ++ [item]) earlier' later' := by
  rcases starts with ⟨before, first, after, rfl, isFirst, notLater⟩
  refine ⟨before, first, after ++ [item], by simp, included isFirst, ?_⟩
  intro a inBefore inLater
  exact notLater a inBefore (notGained a (List.mem_append_left _ inBefore) inLater)

namespace Partitions

variable {admits : α → Prop} {agree : α → α → Prop} {items : List α} {groups : List (List α)}

theorem nil (agree : α → α → Prop) : Partitions agree [] [] where
  complete := .nil
  together := nofun
  apart := .nil
  byFirst := .nil
  inOrder := nofun
  nonempty := nofun

theorem mem_items
    (parts : Partitions agree items groups) {group : List α} (isGroup : group ∈ groups) {a : α}
    (member : a ∈ group) :
    a ∈ items :=
  (parts.inOrder group isGroup).subset member

/-- Two items are in the same group exactly when they agree. -/
theorem same_group_iff
    (parts : Partitions agree items groups) (equivalence : EquivalenceOn admits agree)
    (admitted : ∀ item ∈ items, admits item)
    {i j : Nat} {first second : List α} (atI : groups[i]? = some first)
    (atJ : groups[j]? = some second) {a b : α} (inFirst : a ∈ first) (inSecond : b ∈ second) :
    i = j ↔ agree a b := by
  have apartAt {i j : Nat} {first second : List α} (atI : groups[i]? = some first)
      (atJ : groups[j]? = some second) (before : i < j) {a b : α} (inFirst : a ∈ first)
      (inSecond : b ∈ second) : ¬ agree a b := by
    rcases List.getElem?_eq_some_iff.1 atI with ⟨iBound, rfl⟩
    rcases List.getElem?_eq_some_iff.1 atJ with ⟨jBound, rfl⟩
    exact List.pairwise_iff_getElem.1 parts.apart i j iBound jBound before a inFirst b inSecond
  constructor
  · rintro rfl
    cases atI.symm.trans atJ
    exact parts.together first (List.mem_of_getElem? atI) a inFirst b inSecond
  · intro same
    rcases Nat.lt_trichotomy i j with earlier | here | later
    · exact absurd same (apartAt atI atJ earlier inFirst inSecond)
    · exact here
    · have admittedA := admitted a (parts.mem_items (List.mem_of_getElem? atI) inFirst)
      exact absurd (equivalence.symm admittedA same) (apartAt atJ atI later inSecond inFirst)

/-- An item that agrees with an item of a group is in that group. -/
theorem mem_group_of_agree
    (parts : Partitions agree items groups) (equivalence : EquivalenceOn admits agree)
    (admitted : ∀ item ∈ items, admits item)
    {group : List α} (isGroup : group ∈ groups) {a b : α} (inGroup : a ∈ group) (member : b ∈ items)
    (same : agree a b) :
    b ∈ group := by
  rcases List.mem_flatten.1 (parts.complete.mem_iff.2 member) with ⟨other, isOther, inOther⟩
  rcases List.mem_iff_getElem?.1 isGroup with ⟨i, atI⟩
  rcases List.mem_iff_getElem?.1 isOther with ⟨j, atJ⟩
  have here := (parts.same_group_iff equivalence admitted atI atJ inGroup inOther).2 same
  subst here
  cases atI.symm.trans atJ
  exact inOther

/-- A new last item that agrees with an item of a group joins that group. -/
theorem join
    {before after : List (List α)} {group : List α} {first item : α}
    (parts : Partitions agree items (before ++ group :: after))
    (equivalence : EquivalenceOn admits agree) (admitted : ∀ a ∈ items, admits a)
    (itemAdmitted : admits item) (inGroup : first ∈ group) (same : agree first item) :
    Partitions agree (items ++ [item]) (before ++ (group ++ [item]) :: after) := by
  have isGroup : group ∈ before ++ group :: after := by simp
  have groupAdmitted (a : α) (member : a ∈ group) : admits a :=
    admitted a (parts.mem_items isGroup member)
  have itemAgrees : agree item first := equivalence.symm (groupAdmitted first inGroup) same
  constructor
  case complete =>
    have moved : (before ++ (group ++ [item]) :: after).flatten.Perm
        ((before ++ group :: after).flatten ++ [item]) := by
      simp only [List.flatten_append, List.flatten_cons, List.append_assoc]
      exact .append_left _ (.append_left _ List.perm_append_comm)
    exact moved.trans (parts.complete.append_right [item])
  case together =>
    refine forall_mem_replace parts.together ?_
    simp only [List.forall_mem_append, List.forall_mem_singleton]
    intro agreed
    refine ⟨?_, ?_, equivalence.refl itemAdmitted⟩
    · intro a inA
      exact ⟨agreed a inA,
        equivalence.trans (groupAdmitted a inA) (agreed a inA first inGroup) same⟩
    · intro b inB
      exact equivalence.trans itemAdmitted itemAgrees (agreed first inGroup b inB)
  case apart =>
    refine pairwise_replace parts.apart (fun _ _ apart => apart) ?_ ?_
    · intro earlier isEarlier apart a inA
      rw [List.forall_mem_append, List.forall_mem_singleton]
      refine ⟨apart a inA, ?_⟩
      intro agrees
      have aAdmitted := admitted a (parts.mem_items (by simp [isEarlier]) inA)
      exact apart a inA first inGroup (equivalence.trans aAdmitted agrees itemAgrees)
    · intro later _ apart
      rw [List.forall_mem_append, List.forall_mem_singleton]
      refine ⟨apart, ?_⟩
      intro b inB agrees
      exact apart first inGroup b inB (equivalence.trans (groupAdmitted first inGroup) same agrees)
  case byFirst =>
    have notGained (a : α) (member : a ∈ items) (inGrown : a ∈ group ++ [item]) : a ∈ group := by
      rcases List.mem_append.1 inGrown with inOld | isItem
      · exact inOld
      · cases List.mem_singleton.1 isItem
        exact parts.mem_group_of_agree equivalence admitted isGroup inGroup member same
    refine pairwise_replace parts.byFirst ?_ ?_ ?_
    · intro earlier later starts
      exact starts.extend (List.Subset.refl _) (fun _ _ inLater => inLater) item
    · intro earlier _ starts
      exact starts.extend (List.Subset.refl _) notGained item
    · intro later _ starts
      exact starts.extend (List.subset_append_left _ _) (fun _ _ inLater => inLater) item
  case inOrder =>
    have widened (other : List α) (isOther : other ∈ before ++ group :: after) :
        other.Sublist (items ++ [item]) :=
      (parts.inOrder other isOther).trans (List.sublist_append_left items [item])
    exact forall_mem_replace widened fun _ => (parts.inOrder group isGroup).append (.refl [item])
  case nonempty =>
    exact forall_mem_replace parts.nonempty fun _ => by simp

/-- A new last item that agrees with no item of a group makes a group of its own. -/
theorem start
    {item : α} (parts : Partitions agree items groups) (itemRefl : agree item item)
    (fresh : ∀ group ∈ groups, ∀ a ∈ group, ¬ agree a item) :
    Partitions agree (items ++ [item]) (groups ++ [[item]]) := by
  have notThere : item ∉ items := by
    intro member
    rcases List.mem_flatten.1 (parts.complete.mem_iff.2 member) with ⟨group, isGroup, inGroup⟩
    exact fresh group isGroup item inGroup itemRefl
  constructor
  case complete => simpa using parts.complete.append_right [item]
  case together =>
    rw [List.forall_mem_append, List.forall_mem_singleton]
    refine ⟨parts.together, ?_⟩
    intro a isA b isB
    cases List.mem_singleton.1 isA
    cases List.mem_singleton.1 isB
    exact itemRefl
  case apart =>
    rw [List.pairwise_append]
    refine ⟨parts.apart, List.pairwise_singleton _ _, ?_⟩
    intro group isGroup own isOwn a inGroup b inOwn
    cases List.mem_singleton.1 isOwn
    cases List.mem_singleton.1 inOwn
    exact fresh group isGroup a inGroup
  case byFirst =>
    rw [List.pairwise_append]
    refine ⟨parts.byFirst.imp fun starts => ?_, List.pairwise_singleton _ _, ?_⟩
    · exact starts.extend (List.Subset.refl _) (fun _ _ inLater => inLater) item
    · intro group isGroup own isOwn
      cases List.mem_singleton.1 isOwn
      rcases List.exists_mem_of_ne_nil group (parts.nonempty group isGroup) with ⟨first, inGroup⟩
      rcases List.append_of_mem (parts.mem_items isGroup inGroup) with ⟨before, after, rfl⟩
      refine ⟨before, first, after ++ [item], by simp, inGroup, ?_⟩
      intro a inBefore inOwn
      cases List.mem_singleton.1 inOwn
      exact notThere (List.mem_append_left _ inBefore)
  case inOrder =>
    rw [List.forall_mem_append, List.forall_mem_singleton]
    constructor
    · intro group isGroup
      exact (parts.inOrder group isGroup).trans (List.sublist_append_left items [item])
    · exact List.sublist_append_right items [item]
  case nonempty =>
    rw [List.forall_mem_append, List.forall_mem_singleton]
    exact ⟨parts.nonempty, List.cons_ne_nil item []⟩

end Partitions

end RowPlan
