import Mathlib.Data.List.Sort
import Mathlib.Data.List.Triplewise
import Mathlib.Order.Fin.Basic
import RowPlan.Proofs.Sorting.Order
import RowPlan.Proofs.Sorting.Runs

/-!
# Stable sorting by keys

Without NaN a list sorted by keys is the stable sort of the list, and this determines it. With NaN the
items next to each other still are in order, which is enough in two ways: the keys apart from NaN come
out as their stable sort whenever they come out in order, and they do so whenever no NaN stands between
two numbers in the wrong order.
-/

namespace RowPlan

namespace Sorting

section Positions

variable {ι : Type} [LinearOrder ι] (key : ι → SortKey)

/-- The comparison of positions by their keys. -/
def ltAt (i j : ι) : Bool := (key i).lt (key j)

/-- No NaN stands between two numbers in the wrong order. -/
def NoneParted : Prop :=
  ∀ i j k, i < j → j < k → (key j).isNaN = true →
    ∀ m n, key i = .number m → key k = .number n → n.lt m = false

variable {key}

theorem inOrder_of_lt {i j : ι} (below : (key i).lt (key j) = true) :
    InOrder (ltAt key) (· < ·) i j := by
  rcases lt_trichotomy i j with before | rfl | after
  · exact .inl ⟨before, SortKey.lt_asymm below⟩
  · rw [SortKey.lt_irrefl] at below
    cases below
  · exact .inr ⟨after, below⟩

/-- An item after NaN that is below a third one is in order with NaN, or the two are parted by it. -/
theorem inOrder_of_nan_before
    (noneParted : NoneParted key) {i j k : ι} (nan : (key i).isNaN = true) (before : i < j)
    (below : ltAt key j k = true) :
    InOrder (ltAt key) (· < ·) i k := by
  cases last : key k with
  | number n =>
      rcases lt_trichotomy i k with first | rfl | inverted
      · exact .inl ⟨first, SortKey.not_lt_nan nan⟩
      · rw [ltAt, SortKey.not_lt_nan nan] at below
        cases below
      · rw [ltAt, last] at below
        rcases SortKey.exists_number_of_lt below with ⟨m, isNumber, below⟩
        rw [noneParted k i j inverted before nan n m last isNumber] at below
        cases below
  | _ =>
      apply inOrder_of_lt
      rw [SortKey.nan_lt_iff nan, last]
      nofun

/-- An item before NaN that is above a third one has that one in order with NaN, or the two are parted
by it. -/
theorem inOrder_of_nan_after
    (noneParted : NoneParted key) {i j k : ι} (nan : (key k).isNaN = true) (before : j < k)
    (below : ltAt key i j = true) (notBelow : ltAt key k j = false) :
    InOrder (ltAt key) (· < ·) i k := by
  rcases lt_trichotomy i k with first | rfl | inverted
  · rcases SortKey.exists_number_of_not_nan_lt nan notBelow with ⟨m, isNumber⟩
    rw [ltAt, isNumber] at below
    rcases SortKey.exists_number_of_lt below with ⟨n, isNumber', _⟩
    refine .inl ⟨first, ?_⟩
    rw [ltAt, isNumber']
    exact SortKey.nan_not_lt_number nan n
  · rw [notBelow] at below
    cases below
  · rcases SortKey.exists_number_of_not_nan_lt nan notBelow with ⟨m, isNumber⟩
    rw [ltAt, isNumber] at below
    rcases SortKey.exists_number_of_lt below with ⟨n, isNumber', below⟩
    rw [noneParted j k i before inverted nan m n isNumber isNumber'] at below
    cases below

/-- Unless NaN parts two numbers in the wrong order, being in order carries over from neighbours to
all pairs. -/
theorem inOrder_trans
    (noneParted : NoneParted key) {i j k : ι} (first : InOrder (ltAt key) (· < ·) i j)
    (second : InOrder (ltAt key) (· < ·) j k) :
    InOrder (ltAt key) (· < ·) i k := by
  by_cases nan : (key j).isNaN = true
  · -- NaN moves before what is no number, and never otherwise.
    rcases first with ⟨before, notBelow⟩ | ⟨_, below⟩
    · rcases SortKey.exists_number_of_not_nan_lt nan notBelow with ⟨m, isNumber⟩
      rcases second with ⟨after, _⟩ | ⟨_, below⟩
      · refine .inl ⟨before.trans after, Bool.eq_false_iff.2 fun inverted => ?_⟩
        rw [ltAt, isNumber] at inverted
        rcases SortKey.exists_number_of_lt inverted with ⟨n, isNumber', inverted⟩
        rw [noneParted i j k before after nan m n isNumber isNumber'] at inverted
        cases inverted
      · apply inOrder_of_lt
        have notNumber := (SortKey.nan_lt_iff nan).1 below
        rw [isNumber]
        cases last : key k with
        | number n => exact absurd last (notNumber n)
        | _ => rfl
    · rw [ltAt, SortKey.not_lt_nan nan] at below
      cases below
  · rw [Bool.not_eq_true] at nan
    rcases first with ⟨before, notBelow⟩ | ⟨after, below⟩
    · rcases second with ⟨before', notBelow'⟩ | ⟨after', below'⟩
      · exact .inl ⟨before.trans before', SortKey.not_lt_trans nan notBelow notBelow'⟩
      · by_cases nanFirst : (key i).isNaN = true
        · exact inOrder_of_nan_before noneParted nanFirst before below'
        · rw [Bool.not_eq_true] at nanFirst
          exact inOrder_of_lt (SortKey.lt_of_not_lt_of_lt nanFirst notBelow below')
    · rcases second with ⟨before', notBelow'⟩ | ⟨after', below'⟩
      · by_cases nanLast : (key k).isNaN = true
        · exact inOrder_of_nan_after noneParted nanLast before' below notBelow'
        · rw [Bool.not_eq_true] at nanLast
          exact inOrder_of_lt (SortKey.lt_of_lt_of_not_lt nanLast below notBelow')
      · have known : (key k).isNaN = false := by
          by_contra isNaN
          rw [Bool.not_eq_false] at isNaN
          rw [ltAt, SortKey.not_lt_nan isNaN] at below'
          cases below'
        exact inOrder_of_lt
          (SortKey.lt_of_lt_of_not_lt known below (SortKey.lt_asymm below'))

/-- NaN that comes right behind a key that is tied with a given one is tied with it as well. -/
theorem tied_of_inOrder_nan
    {level : SortKey} {i j : ι} (nan : (key j).isNaN = true)
    (step : InOrder (ltAt key) (· < ·) i j) (here : (key i).tied level = true) :
    (key j).tied level = true := by
  rw [SortKey.tied_iff] at here ⊢
  refine ⟨?_, SortKey.not_lt_nan nan⟩
  rcases step with ⟨_, notBelow⟩ | ⟨_, below⟩
  · rcases SortKey.exists_number_of_not_nan_lt nan notBelow with ⟨m, isNumber⟩
    cases level with
    | number n => exact SortKey.nan_not_lt_number nan n
    | _ =>
        rw [isNumber] at here
        cases here.1
  · rw [ltAt, SortKey.not_lt_nan nan] at below
    cases below

/-- Along neighbours in order, positions only rise where keys that are tied with a given one are passed
and keys apart from NaN do not fall. -/
theorem lt_of_tied
    {level : SortKey} (known : level.isNaN = false) {i : ι} {order : List ι}
    (chain : List.IsChain (InOrder (ltAt key) (· < ·)) (i :: order))
    (here : (key i).tied level = true)
    (rising :
      (order.filter fun j => !(key j).isNaN).Pairwise fun j k => (key k).lt (key j) = false)
    (above : ∀ j ∈ order, (key j).isNaN = false → (key j).lt level = false)
    {j : ι} (member : j ∈ order) (notNaN : (key j).isNaN = false)
    (there : (key j).tied level = true) :
    i < j := by
  induction order generalizing i with
  | nil => cases member
  | cons next order later =>
      rcases List.isChain_cons_cons.1 chain with ⟨step, chain⟩
      have tiedNext : (key next).tied level = true := by
        by_cases nan : (key next).isNaN = true
        · exact tied_of_inOrder_nan nan step here
        · rw [Bool.not_eq_true] at nan
          refine (SortKey.tied_iff _ _).2 ⟨above next List.mem_cons_self nan, ?_⟩
          rcases List.mem_cons.1 member with rfl | member
          · exact ((SortKey.tied_iff _ _).1 there).2
          · rw [List.filter_cons_of_pos (by simpa using nan), List.pairwise_cons] at rising
            have notBelow := rising.1 j (List.mem_filter.2 ⟨member, by simpa using notNaN⟩)
            refine Bool.eq_false_iff.2 fun below => ?_
            have := SortKey.lt_of_lt_of_not_lt notNaN below notBelow
            rw [((SortKey.tied_iff _ _).1 there).2] at this
            cases this
      have rises : i < next := by
        rcases step with ⟨before, _⟩ | ⟨_, below⟩
        · exact before
        · have := SortKey.lt_of_lt_of_not_lt known below ((SortKey.tied_iff _ _).1 tiedNext).2
          rw [((SortKey.tied_iff _ _).1 here).1] at this
          cases this
      rcases List.mem_cons.1 member with rfl | member
      · exact rises
      · refine rises.trans (later chain tiedNext ?_ ?_ member)
        · exact rising.sublist ((List.sublist_cons_self next order).filter _)
        · exact fun other otherMember => above other (List.mem_cons_of_mem _ otherMember)

/-- Positions with keys that are tied with a given one come out as they were. -/
theorem pairwise_lt_of_tied
    {level : SortKey} (known : level.isNaN = false) {order : List ι}
    (chain : List.IsChain (InOrder (ltAt key) (· < ·)) order)
    (rising :
      (order.filter fun j => !(key j).isNaN).Pairwise fun j k => (key k).lt (key j) = false) :
    ((order.filter fun j => !(key j).isNaN).filter fun j => (key j).tied level).Pairwise (· < ·) := by
  induction order with
  | nil => exact .nil
  | cons i order later =>
      have risingRest := rising.sublist ((List.sublist_cons_self i order).filter _)
      have rest := later chain.of_cons risingRest
      rw [List.filter_filter] at rest ⊢
      rw [List.filter_cons]
      split
      · rename_i chosen
        rw [Bool.and_eq_true, Bool.not_eq_true'] at chosen
        rw [List.filter_cons_of_pos (by simpa using chosen.2), List.pairwise_cons] at rising
        refine List.pairwise_cons.2 ⟨fun j member => ?_, rest⟩
        rcases List.mem_filter.1 member with ⟨member, isChosen⟩
        rw [Bool.and_eq_true, Bool.not_eq_true'] at isChosen
        refine lt_of_tied known chain chosen.1 risingRest ?_ member isChosen.2 isChosen.1
        intro other otherMember otherKnown
        exact SortKey.not_lt_trans chosen.2 ((SortKey.tied_iff _ _).1 chosen.1).1
          (rising.1 other (List.mem_filter.2 ⟨otherMember, by simpa using otherKnown⟩))
      · exact rest

end Positions

/-! ## Lists of pairs -/

section Pairs

variable {α : Type} {pairs sorted other : List (SortKey × α)}

/-- Whether the key of a pair is not NaN. -/
def known (pair : SortKey × α) : Bool := !pair.1.isNaN

/-- A list sorted stably by its keys: nothing is lost, no key comes before another one that it must
not come before, and pairs with equal keys are as they were. -/
structure StablySorted (descending : Bool) (pairs sorted : List (SortKey × α)) : Prop where
  perm : sorted.Perm pairs
  ordered : sorted.Pairwise fun first second => ¬ SortKey.Wrong descending first.1 second.1
  stable :
    ∀ pair ∈ pairs,
      sorted.filter (fun other => other.1.tied pair.1) =
        pairs.filter fun other => other.1.tied pair.1

/-- The keys of a list by positions. -/
def keyAt (pairs : List (SortKey × α)) (i : Fin pairs.length) : SortKey := (pairs.get i).1

/-- A sorted list reads the given one in an order in which neighbours are in order. -/
theorem exists_order (pairs : List (SortKey × α)) :
    ∃ order : List (Fin pairs.length),
      Arranged (ltAt (keyAt pairs)) (· < ·) (List.finRange pairs.length) order ∧
        upwards pairs = order.map pairs.get :=
  ⟨_, sort_arranged (List.pairwise_lt_finRange _), rfl⟩

/-- Apart from NaN, a list that comes out in order comes out stably sorted. -/
theorem stablySorted_upwards
    (rising :
      ((upwards pairs).filter known).Pairwise fun first second =>
        ¬ SortKey.Wrong false first.1 second.1) :
    StablySorted false (pairs.filter known) ((upwards pairs).filter known) := by
  rcases exists_order pairs with ⟨order, arranged, read⟩
  have reread : pairs = (List.finRange pairs.length).map pairs.get :=
    (List.map_get_finRange pairs).symm
  refine ⟨?_, rising, ?_⟩
  · rw [read]
    conv_rhs => rw [reread]
    exact (arranged.perm.map _).filter known
  · intro pair member
    have level : pair.1.isNaN = false := by
      simpa [known] using (List.mem_filter.1 member).2
    rw [read, List.filter_map, List.filter_map]
    conv_rhs => rw [reread, List.filter_map, List.filter_map]
    rw [read, List.filter_map, List.pairwise_map] at rising
    refine congrArg _ (List.Perm.eq_of_pairwise ?_ (pairwise_lt_of_tied level arranged.chain ?_)
      ?_ ((arranged.perm.filter _).filter _))
    · exact fun i j _ _ before after => absurd after (lt_asymm before)
    · exact rising.imp fun {i j} => (SortKey.not_wrong_upwards_iff _ _).1
    · exact ((List.pairwise_lt_finRange _).filter _).filter _

/-- No NaN stands between two numbers that are in the wrong order. -/
def Unparted (descending : Bool) (pairs : List (SortKey × α)) : Prop :=
  pairs.Triplewise fun first middle last =>
    middle.1.isNaN = true → ∀ m n, first.1 = .number m → last.1 = .number n →
      ¬ SortKey.Wrong descending first.1 last.1

theorem ordered_upwards (unparted : Unparted false pairs) :
    (upwards pairs).Pairwise fun first second => ¬ SortKey.Wrong false first.1 second.1 := by
  have noneParted : NoneParted (keyAt pairs) := by
    intro i j k before after nan m n first last
    have notWrong :=
      List.triplewise_iff_getElem.1 unparted i j k before after k.2 nan m n first last
    rw [SortKey.not_wrong_upwards_iff] at notWrong
    change ltAt (keyAt pairs) k i = false at notWrong
    rwa [ltAt, first, last] at notWrong
  rcases exists_order pairs with ⟨order, arranged, read⟩
  have : Trans (InOrder (ltAt (keyAt pairs)) (· < ·)) (InOrder (ltAt (keyAt pairs)) (· < ·))
      (InOrder (ltAt (keyAt pairs)) (· < ·)) := ⟨inOrder_trans noneParted⟩
  rw [read, List.pairwise_map]
  refine arranged.chain.pairwise.imp fun {i j} inOrder => ?_
  rw [SortKey.not_wrong_upwards_iff]
  rcases inOrder with ⟨_, notBelow⟩ | ⟨_, below⟩
  · exact notBelow
  · exact SortKey.lt_asymm below

/-- A list has only one stable sort. -/
theorem StablySorted.unique
    {descending : Bool} (first : StablySorted descending pairs sorted)
    (second : StablySorted descending pairs other) :
    sorted = other := by
  have perm := first.perm.trans second.perm.symm
  have stable :
      ∀ pair ∈ sorted,
        sorted.filter (fun next => next.1.tied pair.1) =
          other.filter fun next => next.1.tied pair.1 := by
    intro pair member
    have member := first.perm.mem_iff.1 member
    rw [first.stable pair member, second.stable pair member]
  have ordered := first.ordered
  have ordered' := second.ordered
  clear first second
  induction sorted generalizing other with
  | nil => exact perm.nil_eq
  | cons pair sorted later =>
      cases other with
      | nil => exact absurd perm (List.not_perm_cons_nil)
      | cons pair' other =>
          rcases List.pairwise_cons.1 ordered with ⟨leads, orderedRest⟩
          rcases List.pairwise_cons.1 ordered' with ⟨leads', orderedRest'⟩
          have same : pair = pair' := by
            by_contra differ
            have below : pair' ∈ sorted :=
              List.mem_of_ne_of_mem (Ne.symm differ) (perm.mem_iff.2 List.mem_cons_self)
            have below' : pair ∈ other :=
              List.mem_of_ne_of_mem differ (perm.mem_iff.1 List.mem_cons_self)
            have tied := SortKey.tied_of_not_wrong (leads' pair below') (leads pair' below)
            have heads := stable pair List.mem_cons_self
            rw [List.filter_cons, if_pos (by simp [SortKey.tied, SortKey.lt_irrefl]),
              List.filter_cons, if_pos tied] at heads
            exact differ (List.cons.inj heads).1
          subst same
          refine congrArg _ (later perm.cons_inv ?_ orderedRest orderedRest')
          intro next member
          have filtered := stable next (List.mem_cons_of_mem _ member)
          rw [List.filter_cons, List.filter_cons] at filtered
          split at filtered
          · exact (List.cons.inj filtered).2
          · exact filtered

theorem stablySorted_reverse
    (sorted' : StablySorted false pairs.reverse sorted) : StablySorted true pairs sorted.reverse where
  perm := (List.reverse_perm sorted).trans (sorted'.perm.trans (List.reverse_perm pairs))
  ordered := by
    rw [List.pairwise_reverse]
    exact sorted'.ordered.imp fun notWrong =>
      fun wrong => notWrong ((SortKey.wrong_downwards_iff _ _).1 wrong)
  stable := by
    intro pair member
    have stable := sorted'.stable pair (List.mem_reverse.2 member)
    rw [List.filter_reverse] at stable ⊢
    rw [stable, List.reverse_reverse]

theorem upwards_perm (pairs : List (SortKey × α)) : (upwards pairs).Perm pairs := by
  rcases exists_order pairs with ⟨order, arranged, read⟩
  rw [read]
  conv_rhs => rw [← List.map_get_finRange pairs]
  exact arranged.perm.map _

theorem upwards_eq_self
    (rising : List.IsChain (fun first second => ¬ SortKey.Wrong false first.1 second.1) pairs) :
    upwards pairs = pairs := by
  have reread : (List.finRange pairs.length).map pairs.get = pairs := List.map_get_finRange pairs
  have still :
      List.IsChain (fun i j => ltAt (keyAt pairs) j i = false) (List.finRange pairs.length) := by
    rw [← reread, List.isChain_map] at rising
    exact rising.imp fun i j => (SortKey.not_wrong_upwards_iff _ _).1
  calc
    upwards pairs = (sort (ltAt (keyAt pairs)) (List.finRange pairs.length)).map pairs.get := rfl
    _ = pairs := by rw [sort_eq_self still, reread]

/-! ## Both directions -/

/-- Sorting loses nothing. -/
theorem byKey_perm (descending : Bool) (pairs : List (SortKey × α)) :
    (byKey descending pairs).Perm pairs := by
  rw [byKey]
  split
  · exact (List.reverse_perm _).trans ((upwards_perm _).trans (List.reverse_perm _))
  · exact upwards_perm pairs

/-- A list without neighbours in the wrong order comes out as it is. -/
theorem byKey_eq_self
    {descending : Bool}
    (ordered :
      List.IsChain (fun first second => ¬ SortKey.Wrong descending first.1 second.1) pairs) :
    byKey descending pairs = pairs := by
  cases descending with
  | false => exact upwards_eq_self ordered
  | true =>
      have turned : List.IsChain (fun first second => ¬ SortKey.Wrong false first.1 second.1)
          pairs.reverse :=
        List.isChain_reverse.2 (ordered.imp fun _ _ notWrong wrong =>
          notWrong ((SortKey.wrong_downwards_iff _ _).2 wrong))
      change (upwards pairs.reverse).reverse = pairs
      rw [upwards_eq_self turned, List.reverse_reverse]

theorem stablySorted_filter_byKey
    {descending : Bool}
    (ordered :
      ((byKey descending pairs).filter known).Pairwise fun first second =>
        ¬ SortKey.Wrong descending first.1 second.1) :
    StablySorted descending (pairs.filter known) ((byKey descending pairs).filter known) := by
  cases descending with
  | false => exact stablySorted_upwards ordered
  | true =>
      have turned : byKey true pairs = (upwards pairs.reverse).reverse := rfl
      rw [turned, List.filter_reverse] at ordered ⊢
      refine stablySorted_reverse ?_
      rw [← List.filter_reverse]
      rw [List.pairwise_reverse] at ordered
      exact stablySorted_upwards (ordered.imp fun notWrong wrong =>
        notWrong ((SortKey.wrong_downwards_iff _ _).2 wrong))

/-- Where no NaN stands between two numbers in the wrong order, everything comes out in order. -/
theorem ordered_byKey
    {descending : Bool} (unparted : Unparted descending pairs) :
    (byKey descending pairs).Pairwise fun first second =>
      ¬ SortKey.Wrong descending first.1 second.1 := by
  cases descending with
  | false => exact ordered_upwards unparted
  | true =>
      have turned : byKey true pairs = (upwards pairs.reverse).reverse := rfl
      rw [turned, List.pairwise_reverse]
      have unparted : Unparted false pairs.reverse := by
        refine List.triplewise_reverse.2 (unparted.imp ?_)
        intro first middle last notWrong nan m n left right wrong
        exact notWrong nan n m right left ((SortKey.wrong_downwards_iff _ _).2 wrong)
      exact (ordered_upwards unparted).imp fun notWrong wrong =>
        notWrong ((SortKey.wrong_downwards_iff _ _).1 wrong)

theorem unparted_of_known
    {descending : Bool} (noNaN : ∀ pair ∈ pairs, known pair = true) :
    Unparted descending pairs := by
  rw [Unparted, List.triplewise_iff_getElem]
  intro i j k _ after inside nan
  have := noNaN pairs[j] (List.getElem_mem _)
  simp [known, nan] at this

/-- Without NaN, sorting is stable sorting. -/
theorem stablySorted_byKey
    {descending : Bool} (noNaN : ∀ pair ∈ pairs, known pair = true) :
    StablySorted descending pairs (byKey descending pairs) := by
  have ordered := ordered_byKey (unparted_of_known noNaN : Unparted descending pairs)
  have sorted := stablySorted_filter_byKey (ordered.filter known)
  rwa [List.filter_eq_self.2 noNaN, List.filter_eq_self.2 fun pair member =>
    noNaN pair ((byKey_perm descending pairs).mem_iff.1 member)] at sorted

/-- The keys apart from NaN come out as if there were no NaN exactly when they come out in order. -/
theorem filter_byKey_eq_iff (descending : Bool) (pairs : List (SortKey × α)) :
    (byKey descending pairs).filter known = byKey descending (pairs.filter known) ↔
      ((byKey descending pairs).filter known).Pairwise fun first second =>
        ¬ SortKey.Wrong descending first.1 second.1 := by
  have alone : StablySorted descending (pairs.filter known) (byKey descending (pairs.filter known)) :=
    stablySorted_byKey fun pair member => (List.mem_filter.1 member).2
  constructor
  · intro same
    rw [same]
    exact alone.ordered
  · intro ordered
    exact (stablySorted_filter_byKey ordered).unique alone

end Pairs

end Sorting

end RowPlan
