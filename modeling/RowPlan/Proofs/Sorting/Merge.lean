import Mathlib.Data.List.Chain
import RowPlan.Sorting.Merge

/-!
# What merging keeps

A merge loses no item, and it puts no two items next to each other that it has not compared: of two
neighbours of the result that come from different runs, the item of the right run has been found below
the one of the left run if it comes first, and not below it if it comes second. Neither statement
assumes anything about the comparison.
-/

namespace RowPlan.Sorting

variable {α : Type}

/-! ## Places found by a test -/

/-- A place in a list: the item before it passes a test, and the item at it does not. -/
structure Boundary (test : α → Bool) (items : List α) (place : Nat) : Prop where
  passed : ∀ item ∈ (items.take place).getLast?, test item = true
  failed : ∀ item ∈ (items.drop place).head?, test item = false

theorem getLast?_take_succ
    {items : List α} {place : Nat} {item : α} (found : items[place]? = some item) :
    (items.take (place + 1)).getLast? = some item := by
  rw [List.take_add_one, found, Option.toList_some, List.getLast?_concat]

/-- A halved range ends at a boundary. -/
theorem bisect_boundary
    {side : End} {test : α → Bool} {items : List α} {low high : Nat}
    (ordered : low ≤ high) (inside : high ≤ items.length)
    (passed : ∀ item ∈ (items.take low).getLast?, test item = true)
    (failed : ∀ item ∈ (items.drop high).head?, test item = false) :
    Boundary test items (bisect side test items low high) := by
  fun_induction bisect side test items low high with
  | case1 low high open_ middle item found passes later =>
      have := side.half_lt (Nat.sub_pos_of_lt open_)
      refine later (by omega) inside ?_ failed
      intro last isLast
      rw [getLast?_take_succ found] at isLast
      cases isLast
      exact passes
  | case2 low high open_ middle item found fails later =>
      have := side.half_lt (Nat.sub_pos_of_lt open_)
      refine later (by omega) (by omega) passed ?_
      intro next isNext
      rw [List.head?_drop, found] at isNext
      cases isNext
      exact Bool.eq_false_iff.2 fails
  | case3 low high open_ middle absent =>
      have := side.half_lt (Nat.sub_pos_of_lt open_)
      have := List.getElem?_eq_none_iff.1 absent
      omega
  | case4 low high closed =>
      cases (by omega : low = high)
      exact ⟨passed, failed⟩

/-- Growing distances stop at a range with a boundary in it. -/
theorem stride_range
    {test : α → Bool} {items : List α} {low next : Nat}
    (ordered : low ≤ next) (inside : low ≤ items.length)
    (passed : ∀ item ∈ (items.take low).getLast?, test item = true) :
    let range := stride test items low next
    range.1 ≤ range.2 ∧ range.2 ≤ items.length ∧
      (∀ item ∈ (items.take range.1).getLast?, test item = true) ∧
      ∀ item ∈ (items.drop range.2).head?, test item = false := by
  fun_induction stride test items low next with
  | case1 low next item found passes later =>
      have := (List.getElem?_eq_some_iff.1 found).1
      refine later (by omega) (by omega) ?_
      intro last isLast
      rw [getLast?_take_succ found] at isLast
      cases isLast
      exact passes
  | case2 low next item found fails =>
      have := (List.getElem?_eq_some_iff.1 found).1
      refine ⟨ordered, by omega, passed, ?_⟩
      intro other isNext
      rw [List.head?_drop, found] at isNext
      cases isNext
      exact Bool.eq_false_iff.2 fails
  | case3 low next absent =>
      exact ⟨inside, Nat.le_refl _, passed, by simp⟩

theorem gallop_boundary (side : End) (test : α → Bool) (items : List α) :
    Boundary test items (gallop side test items) := by
  have noneYet : ∀ item ∈ (items.take 0).getLast?, test item = true := by simp
  rcases stride_range (Nat.le_refl 0) (Nat.zero_le items.length) noneYet with
    ⟨ordered, inside, passed, failed⟩
  exact bisect_boundary ordered inside passed failed

/-! ## Merging from one end -/

section Chains

variable {R : α → α → Prop} {previous : α}

/-- A block of one list may go before the rest of a merge if its last item may stand before the other
list. -/
theorem isChain_block
    {block rest other merged tail : List α} {next : α}
    (withBlock : List.IsChain R (previous :: (block ++ rest ++ tail)))
    (withOther : List.IsChain R (previous :: (next :: other ++ tail)))
    (passed : ∀ last ∈ block.getLast?, R last next)
    (later :
      ∀ before, List.IsChain R (before :: (rest ++ tail)) →
        List.IsChain R (before :: (next :: other ++ tail)) →
        List.IsChain R (before :: (merged ++ tail))) :
    List.IsChain R (previous :: (block ++ merged ++ tail)) := by
  rcases List.eq_nil_or_concat block with rfl | ⟨init, last, rfl⟩
  · exact later previous withBlock withOther
  · simp only [List.concat_eq_append, List.append_assoc, List.singleton_append,
      ← List.cons_append] at withBlock ⊢
    rcases List.isChain_split.1 withBlock with ⟨before, after⟩
    refine List.isChain_split.2 ⟨before, later last (by simpa using after) ?_⟩
    exact List.isChain_cons_cons.2 ⟨passed last (by simp), (List.isChain_cons_cons.1 withOther).2⟩

theorem mem_getLast?_of_drop
    {items : List α} {count : Nat} {last : α} (isLast : last ∈ (items.drop count).getLast?) :
    last ∈ items.getLast? := by
  rw [List.getLast?_drop] at isLast
  split at isLast
  · cases isLast
  · exact isLast

end Chains

section Mingling

variable {side : End} {passes : α → α → Bool} {patience : Nat} {gait : Gait}
  {hosts guests : List α}

/-- No item is lost. -/
theorem mingle_perm :
    (mingle side passes patience gait hosts guests).1.Perm (hosts ++ guests) := by
  fun_induction mingle side passes patience gait hosts guests with
  | case1 _ host second hosts guest guests _ _ lead rest later =>
      have rejoined := List.take_append_drop lead (host :: second :: hosts)
      refine (later.append_left _).trans ?_
      rw [← List.append_assoc, rejoined]
  | case2 _ host second hosts guest guests _ _ lead rest later =>
      have rejoined :
          ((guest :: guests).take lead ++
              (host :: second :: hosts ++ (guest :: guests).drop lead)).Perm
            (host :: second :: hosts ++ (guest :: guests)) := by
        refine (List.perm_append_comm_assoc _ _ _).trans ?_
        rw [List.take_append_drop]
      exact (later.append_left _).trans rejoined
  | case3 _ host second hosts guest guests _ _ _ _ rest later =>
      exact (later.cons guest).trans List.perm_middle.symm
  | case4 _ host second hosts guest guests _ _ _ _ rest later =>
      exact later.cons host
  | case5 _ _ hosts guests _ =>
      exact List.perm_append_comm

/-- Neighbours of the result stand in a relation that neighbours of both lists stand in, and guests
and hosts the way the comparison has them, provided that the last guest may stand before the last
host. -/
theorem isChain_mingle
    {R : α → α → Prop} {tail : List α}
    (passing : ∀ host ∈ hosts, ∀ guest ∈ guests, passes guest host = true → R guest host)
    (staying : ∀ host ∈ hosts, ∀ guest ∈ guests, passes guest host = false → R host guest)
    (ends : ∀ guest ∈ guests.getLast?, ∀ host ∈ hosts.getLast?, R guest host) :
    ∀ {previous : α}, List.IsChain R (previous :: (hosts ++ tail)) →
      List.IsChain R (previous :: (guests ++ tail)) →
      List.IsChain R (previous :: ((mingle side passes patience gait hosts guests).1 ++ tail)) := by
  fun_induction mingle side passes patience gait hosts guests with
  | case1 _ host second hosts guest guests _ _ lead rest later =>
      intro previous withHosts withGuests
      have boundary :=
        gallop_boundary side (fun other => !passes guest other) (host :: second :: hosts)
      rw [← List.take_append_drop lead (host :: second :: hosts)] at withHosts
      refine isChain_block withHosts withGuests ?_ ?_
      · intro last isLast
        exact staying last (List.mem_of_mem_take (List.mem_of_getLast? isLast)) guest
          List.mem_cons_self (by simpa using boundary.passed last isLast)
      · intro before withRest withOther
        refine later ?_ ?_ ?_ withRest withOther
        · exact fun host member => passing host (List.mem_of_mem_drop member)
        · exact fun host member => staying host (List.mem_of_mem_drop member)
        · exact fun guest isLast host lastHost =>
            ends guest isLast host (mem_getLast?_of_drop lastHost)
  | case2 _ host second hosts guest guests _ _ lead rest later =>
      intro previous withHosts withGuests
      have boundary := gallop_boundary side (fun other => passes other host) (guest :: guests)
      rw [← List.take_append_drop lead (guest :: guests)] at withGuests
      refine isChain_block withGuests withHosts ?_ ?_
      · intro last isLast
        exact passing host List.mem_cons_self last
          (List.mem_of_mem_take (List.mem_of_getLast? isLast)) (boundary.passed last isLast)
      · intro before withRest withOther
        refine later ?_ ?_ ?_ withOther withRest
        · exact fun host member guest guestMember =>
            passing host member guest (List.mem_of_mem_drop guestMember)
        · exact fun host member guest guestMember =>
            staying host member guest (List.mem_of_mem_drop guestMember)
        · exact fun guest isLast => ends guest (mem_getLast?_of_drop isLast)
  | case3 _ host second hosts guest guests _ _ _ passed rest later =>
      intro previous withHosts withGuests
      rcases List.isChain_cons_cons.1 withGuests with ⟨first, withGuests⟩
      refine List.isChain_cons_cons.2 ⟨first, later ?_ ?_ ?_ ?_ withGuests⟩
      · exact fun host member guest guestMember =>
          passing host member guest (List.mem_cons_of_mem _ guestMember)
      · exact fun host member guest guestMember =>
          staying host member guest (List.mem_cons_of_mem _ guestMember)
      · exact fun other isLast => ends other (List.mem_getLast?_cons isLast)
      · exact List.isChain_cons_cons.2
          ⟨passing host List.mem_cons_self guest List.mem_cons_self passed,
            (List.isChain_cons_cons.1 withHosts).2⟩
  | case4 _ host second hosts guest guests _ _ _ stays rest later =>
      intro previous withHosts withGuests
      rcases List.isChain_cons_cons.1 withHosts with ⟨first, withHosts⟩
      refine List.isChain_cons_cons.2 ⟨first, later ?_ ?_ ?_ withHosts ?_⟩
      · exact fun host member => passing host (List.mem_cons_of_mem _ member)
      · exact fun host member => staying host (List.mem_cons_of_mem _ member)
      · exact fun guest isLast other lastHost =>
          ends guest isLast other (List.mem_getLast?_cons lastHost)
      · exact List.isChain_cons_cons.2
          ⟨staying host List.mem_cons_self guest List.mem_cons_self (Bool.eq_false_iff.2 stays),
            (List.isChain_cons_cons.1 withGuests).2⟩
  | case5 _ _ hosts guests short =>
      intro previous withHosts withGuests
      match hosts, guests with
      | hosts, [] => exact withHosts
      | [], guests => simpa using withGuests
      | [host], guest :: guests =>
          -- The last host comes after all guests.
          have guestsFirst : List.IsChain R (previous :: guest :: guests) := by
            rw [← List.cons_append] at withGuests
            exact withGuests.left_of_append
          have hostLast : List.IsChain R (host :: tail) := (List.isChain_cons_cons.1 withHosts).2
          have joined : List.IsChain R ((previous :: guest :: guests) ++ (host :: tail)) := by
            refine List.isChain_append.2 ⟨guestsFirst, hostLast, ?_⟩
            intro last isLast next isNext
            cases isNext
            rw [List.getLast?_cons_cons] at isLast
            exact ends last isLast host rfl
          simpa using joined
      | host :: second :: hosts, guest :: guests =>
          exact (short host second hosts guest guests rfl rfl).elim

/-! ## Merging runs -/

theorem receive_perm :
    (receive side passes patience hosts guests).1.Perm (hosts ++ guests) := by
  cases guests with
  | nil => simp [receive]
  | cons guest guests => exact (mingle_perm.cons guest).trans List.perm_middle.symm

/-- If the first guest may stand before the first host, and the last guest before the last host, a
merge between other items keeps to a relation that both lists keep to there. -/
theorem isChain_receive
    {R : α → α → Prop} {before after : List α}
    (passing : ∀ host ∈ hosts, ∀ guest ∈ guests, passes guest host = true → R guest host)
    (staying : ∀ host ∈ hosts, ∀ guest ∈ guests, passes guest host = false → R host guest)
    (starts : ∀ guest ∈ guests.head?, ∀ host ∈ hosts.head?, R guest host)
    (ends : ∀ guest ∈ guests.getLast?, ∀ host ∈ hosts.getLast?, R guest host)
    (withHosts : List.IsChain R (before ++ (hosts ++ after)))
    (withGuests : List.IsChain R (before ++ (guests ++ after))) :
    List.IsChain R (before ++ ((receive side passes patience hosts guests).1 ++ after)) := by
  match hosts, guests with
  | hosts, [] => exact withHosts
  | [], guest :: guests => simpa [receive, mingle] using withGuests
  | host :: hosts, guest :: guests =>
      rcases List.isChain_append.1 withHosts with ⟨beforeChain, hostsChain, _⟩
      rcases List.isChain_append.1 withGuests with ⟨_, guestsChain, toGuest⟩
      refine List.isChain_append.2 ⟨beforeChain, isChain_mingle ?_ ?_ ?_ ?_ guestsChain, toGuest⟩
      · exact fun host member other otherMember =>
          passing host member other (List.mem_cons_of_mem _ otherMember)
      · exact fun host member other otherMember =>
          staying host member other (List.mem_cons_of_mem _ otherMember)
      · exact fun other isLast => ends other (List.mem_getLast?_cons isLast)
      · exact List.isChain_cons_cons.2 ⟨starts guest rfl host rfl, hostsChain⟩

end Mingling

section Merging

variable {lt : α → α → Bool} {patience : Nat} {left right : List α}

theorem meld_perm : (meld lt patience left right).1.Perm (left ++ right) := by
  rw [meld]
  split
  · exact receive_perm
  · refine (List.reverse_perm _).trans (receive_perm.trans ?_)
    rw [← List.reverse_append]
    exact List.reverse_perm _

theorem mergeRuns_perm : (mergeRuns lt patience left right).1.Perm (left ++ right) := by
  unfold mergeRuns
  split
  · rename_i empty
    rw [List.head?_eq_none_iff.1 empty, List.append_nil]
  · rename_i first _
    dsimp only
    split
    · exact List.Perm.refl _
    · rename_i last _
      generalize gallop .front (fun item => !lt first item) left = start
      generalize right.length - gallop .back (fun item => !lt item last) right.reverse = stop
      calc
        (left.take start ++ (meld lt patience (left.drop start) (right.take stop)).1
            ++ right.drop stop).Perm
            (left.take start ++ (left.drop start ++ right.take stop) ++ right.drop stop) :=
          (meld_perm.append_left _).append_right _
        _ = left ++ right := by
          rw [← List.append_assoc, List.take_append_drop, List.append_assoc, List.take_append_drop]

/-- A merge between other items keeps to a relation that both runs keep to there. -/
theorem isChain_meld
    {R : α → α → Prop} {before after : List α}
    (passing : ∀ first ∈ left, ∀ second ∈ right, lt second first = true → R second first)
    (staying : ∀ first ∈ left, ∀ second ∈ right, lt second first = false → R first second)
    (starts : ∀ second ∈ right.head?, ∀ first ∈ left.head?, R second first)
    (ends : ∀ second ∈ right.getLast?, ∀ first ∈ left.getLast?, R second first)
    (withLeft : List.IsChain R (before ++ (left ++ after)))
    (withRight : List.IsChain R (before ++ (right ++ after))) :
    List.IsChain R (before ++ ((meld lt patience left right).1 ++ after)) := by
  rw [meld]
  split
  · exact isChain_receive passing staying starts ends withLeft withRight
  · -- From the back, everything is read backwards.
    have reversed (middle : List α) :
        before ++ (middle ++ after) =
          (after.reverse ++ (middle.reverse ++ before.reverse)).reverse := by
      simp
    rw [reversed, List.isChain_reverse] at withLeft withRight ⊢
    rw [List.reverse_reverse]
    apply isChain_receive
    · exact fun second secondMember first firstMember =>
        passing first (List.mem_reverse.1 firstMember) second (List.mem_reverse.1 secondMember)
    · exact fun second secondMember first firstMember =>
        staying first (List.mem_reverse.1 firstMember) second (List.mem_reverse.1 secondMember)
    · rw [List.head?_reverse, List.head?_reverse]
      exact fun first isLast second lastSecond => ends second lastSecond first isLast
    · rw [List.getLast?_reverse, List.getLast?_reverse]
      exact fun first isFirst second firstSecond => starts second firstSecond first isFirst
    · exact withRight
    · exact withLeft

/-! ## Neighbours -/

/-- An item may stand right before another one: it came earlier and the other one is not below it, or
it came later and is below the other one. -/
def InOrder (lt : α → α → Bool) (earlier : α → α → Prop) (first second : α) : Prop :=
  (earlier first second ∧ lt second first = false) ∨
    (earlier second first ∧ lt first second = true)

/-- Merging two runs in order gives a run in order. -/
theorem isChain_mergeRuns
    {earlier : α → α → Prop} (apart : ∀ first ∈ left, ∀ second ∈ right, earlier first second)
    (leftChain : List.IsChain (InOrder lt earlier) left)
    (rightChain : List.IsChain (InOrder lt earlier) right) :
    List.IsChain (InOrder lt earlier) (mergeRuns lt patience left right).1 := by
  have passing :
      ∀ first ∈ left, ∀ second ∈ right, lt second first = true → InOrder lt earlier second first :=
    fun first firstMember second secondMember below =>
      .inr ⟨apart first firstMember second secondMember, below⟩
  have staying :
      ∀ first ∈ left, ∀ second ∈ right, lt second first = false → InOrder lt earlier first second :=
    fun first firstMember second secondMember notBelow =>
      .inl ⟨apart first firstMember second secondMember, notBelow⟩
  unfold mergeRuns
  split
  · exact leftChain
  · rename_i head isHead
    dsimp only
    have startAt := gallop_boundary .front (fun item => !lt head item) left
    generalize gallop .front (fun item => !lt head item) left = start at startAt ⊢
    have toRight : List.IsChain (InOrder lt earlier) (left.take start ++ right) := by
      refine List.isChain_append.2 ⟨leftChain.take start, rightChain, ?_⟩
      intro item isLast next isNext
      cases isHead.symm.trans isNext
      exact staying item (List.mem_of_mem_take (List.mem_of_getLast? isLast)) head
        (List.mem_of_head? isHead) (by simpa using startAt.passed item isLast)
    split
    · rename_i empty
      rwa [← List.take_append_drop start left, List.getLast?_eq_none_iff.1 empty,
        List.append_nil]
    · rename_i last isLast
      have stopAt := gallop_boundary .back (fun item => !lt item last) right.reverse
      generalize gallop .back (fun item => !lt item last) right.reverse = count at stopAt ⊢
      have passed : ∀ item ∈ (right.drop (right.length - count)).head?, lt item last = false := by
        intro item isNext
        simpa using stopAt.passed item (by rwa [List.take_reverse, List.getLast?_reverse])
      have failed :
          ∀ item ∈ (right.take (right.length - count)).getLast?, lt item last = true := by
        intro item isNext
        simpa using stopAt.failed item (by rwa [List.drop_reverse, List.head?_reverse])
      generalize right.length - count = stop at passed failed ⊢
      have lastMember : last ∈ left := List.mem_of_mem_drop (List.mem_of_getLast? isLast)
      have fromLeft : List.IsChain (InOrder lt earlier) (left ++ right.drop stop) := by
        refine List.isChain_append.2 ⟨leftChain, rightChain.drop stop, ?_⟩
        intro item itemLast next isNext
        cases (mem_getLast?_of_drop isLast).symm.trans itemLast
        exact staying last lastMember next (List.mem_of_mem_drop (List.mem_of_head? isNext))
          (passed next isNext)
      rw [List.append_assoc]
      apply isChain_meld
      · exact fun first member second secondMember =>
          passing first (List.mem_of_mem_drop member) second (List.mem_of_mem_take secondMember)
      · exact fun first member second secondMember =>
          staying first (List.mem_of_mem_drop member) second (List.mem_of_mem_take secondMember)
      · intro second isSecond first isFirst
        rw [List.head?_take] at isSecond
        split at isSecond
        · cases isSecond
        · cases isHead.symm.trans isSecond
          exact passing first (List.mem_of_mem_drop (List.mem_of_head? isFirst)) head
            (List.mem_of_head? isHead) (by simpa using startAt.failed first isFirst)
      · intro second isSecond first isFirst
        cases isLast.symm.trans isFirst
        exact passing last lastMember second
          (List.mem_of_mem_take (List.mem_of_getLast? isSecond)) (failed second isSecond)
      · rwa [← List.append_assoc, List.take_append_drop]
      · rwa [List.take_append_drop]

end Merging

end RowPlan.Sorting
