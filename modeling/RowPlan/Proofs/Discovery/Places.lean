import Mathlib.Data.List.Forall2
import Mathlib.Data.List.Nodup
import RowPlan.Discovery.Search
import RowPlan.Proofs.Pointer
import RowPlan.Proofs.Value.WellFormed

/-!
# The arrays of a document

The keys that lead from a document through objects to an array are its place. The candidates of a
document are described by the places of its arrays, in document order and as deep as is asked for. An
array is the end of every place: no keys lead into it.
-/

namespace RowPlan

namespace Value

/-! ## Places -/

/-- Keys that lead from a value through objects to another value. -/
inductive LeadsTo : Value → List String → Value → Prop where
  | here (value : Value) : LeadsTo value [] value
  | inside {members : List (String × Value)} {key : String} {value target : Value}
      {keys : List String} :
      (key, value) ∈ members → LeadsTo value keys target → LeadsTo (.obj members) (key :: keys) target

/-- Document order of places: they part at two members of an object, the first of which is given
before the second. -/
inductive Precedes : Value → List String → List String → Prop where
  | beside {members : List (String × Value)} {key key' : String} {keys keys' : List String} :
      [key, key'].Sublist (members.map Prod.fst) →
      Precedes (.obj members) (key :: keys) (key' :: keys')
  | inside {members : List (String × Value)} {key : String} {value : Value}
      {keys keys' : List String} :
      (key, value) ∈ members → Precedes value keys keys' →
      Precedes (.obj members) (key :: keys) (key :: keys')

/-- Keys lead through every place on the way. -/
theorem LeadsTo.through
    {value target : Value} {keys more : List String} (leads : LeadsTo value (keys ++ more) target) :
    ∃ middle, LeadsTo value keys middle ∧ LeadsTo middle more target := by
  induction keys generalizing value with
  | nil => exact ⟨value, .here value, leads⟩
  | cons key keys later =>
      cases leads with
      | inside member leads =>
          rcases later leads with ⟨middle, before, after⟩
          exact ⟨middle, .inside member before, after⟩

/-- Where no name is repeated, following the keys finds what they lead to. -/
theorem LeadsTo.follow
    {value target : Value} {keys : List String} (wellFormed : value.WellFormed)
    (leads : LeadsTo value keys target) :
    Pointer.follow value keys = some target := by
  induction leads with
  | here value => rw [Pointer.follow]
  | inside member _ later =>
      rcases (wellFormed_obj_iff _).1 wellFormed with ⟨distinct, each⟩
      rw [Pointer.follow, lookup_eq_some_of_mem distinct member]
      exact later (each _ member)

/-- Nothing in an array has a place. -/
theorem LeadsTo.eq_nil_of_array
    {document target : Value} {keys more : List String} {items : List Value}
    (wellFormed : document.WellFormed) (leads : LeadsTo document keys (.arr items))
    (further : LeadsTo document (keys ++ more) target) :
    more = [] := by
  rcases further.through with ⟨middle, before, after⟩
  cases (before.follow wellFormed).symm.trans (leads.follow wellFormed)
  cases after
  rfl

/-- In a list that repeats nothing, two items are in one order only. -/
theorem not_sublist_swap
    {names : List String} (distinct : names.Nodup) {first second : String}
    (inTurn : [first, second].Sublist names) :
    ¬ [second, first].Sublist names := by
  intro swapped
  induction names with
  | nil => cases inTurn
  | cons name names later =>
      rcases List.nodup_cons.1 distinct with ⟨notLater, distinct⟩
      cases inTurn with
      | cons _ inTurn =>
          cases swapped with
          | cons _ swapped => exact later distinct inTurn swapped
          | cons_cons _ _ => exact notLater (inTurn.mem (by simp))
      | cons_cons _ inTurn =>
          cases swapped with
          | cons _ swapped => exact notLater (swapped.mem (by simp))
          | cons_cons _ _ => exact notLater (inTurn.mem (by simp))

/-- Where no name is repeated, two places are in one order only. -/
theorem Precedes.asymm
    {value : Value} (wellFormed : value.WellFormed) {keys keys' : List String}
    (before : Precedes value keys keys') :
    ¬ Precedes value keys' keys := by
  intro after
  induction before with
  | beside inTurn =>
      have distinct := ((wellFormed_obj_iff _).1 wellFormed).1
      cases after with
      | beside swapped => exact not_sublist_swap distinct inTurn swapped
      | inside _ _ => exact not_sublist_swap distinct inTurn inTurn
  | inside member _ later =>
      rcases (wellFormed_obj_iff _).1 wellFormed with ⟨distinct, each⟩
      cases after with
      | beside twice => exact not_sublist_swap distinct twice twice
      | inside member' after =>
          have found := lookup_eq_some_of_mem distinct member
          rw [lookup_eq_some_of_mem distinct member', Option.some.injEq] at found
          subst found
          exact later (each _ member) after

theorem Precedes.cons
    {members : List (String × Value)} {keys keys' : List String} (member : String × Value)
    (before : Precedes (.obj members) keys keys') :
    Precedes (.obj (member :: members)) keys keys' := by
  cases before with
  | beside inTurn => exact .beside (inTurn.cons _)
  | inside isMember before => exact .inside (List.mem_cons_of_mem _ isMember) before

/-! ## Arrays with their places -/

mutual

/-- The arrays of a value that are in no other array, with the keys that lead to them. -/
def arrays : Value → List (List String × List Value)
  | .arr items => [([], items)]
  | .obj members => memberArrays members
  | _ => []

/-- The arrays of some members that are in no other array, with the keys that lead to them. -/
def memberArrays : List (String × Value) → List (List String × List Value)
  | [] => []
  | (key, value) :: rest =>
    ((arrays value).map fun place => (key :: place.1, place.2)) ++ memberArrays rest

end

theorem leadsTo_array_iff
    {items others : List Value} {keys : List String} :
    LeadsTo (.arr others) keys (.arr items) ↔ keys = [] ∧ items = others := by
  constructor
  · rintro ⟨⟩
    exact ⟨rfl, rfl⟩
  · rintro ⟨rfl, rfl⟩
    exact .here _

/-- An array of an object is one of the first member or one of the others. -/
theorem leadsTo_array_cons_iff
    {key : String} {value : Value} {rest : List (String × Value)} {keys : List String}
    {items : List Value} :
    LeadsTo (.obj ((key, value) :: rest)) keys (.arr items) ↔
      (∃ inner, LeadsTo value inner (.arr items) ∧ keys = key :: inner) ∨
        LeadsTo (.obj rest) keys (.arr items) := by
  constructor
  · rintro (_ | ⟨member, leads⟩)
    rcases List.mem_cons.1 member with same | member
    · cases same
      exact .inl ⟨_, leads, rfl⟩
    · exact .inr (.inside member leads)
  · rintro (⟨inner, leads, rfl⟩ | leads)
    · exact .inside List.mem_cons_self leads
    · cases leads with
      | inside member leads => exact .inside (List.mem_cons_of_mem _ member) leads

mutual

/-- The arrays are those that some keys lead to. -/
theorem mem_arrays_iff
    {keys : List String} {items : List Value} :
    (value : Value) → ((keys, items) ∈ arrays value ↔ LeadsTo value keys (.arr items))
  | .arr others => by
      rw [arrays, List.mem_singleton, leadsTo_array_iff, Prod.mk.injEq]
  | .obj members => by
      rw [arrays]
      exact mem_memberArrays_iff members
  | .null => ⟨nofun, nofun⟩
  | .bool _ => ⟨nofun, nofun⟩
  | .num _ => ⟨nofun, nofun⟩
  | .str _ => ⟨nofun, nofun⟩

theorem mem_memberArrays_iff
    {keys : List String} {items : List Value} :
    (members : List (String × Value)) →
      ((keys, items) ∈ memberArrays members ↔ LeadsTo (.obj members) keys (.arr items))
  | [] => ⟨nofun, nofun⟩
  | (key, value) :: rest => by
      rw [memberArrays, List.mem_append, mem_memberArrays_iff rest, leadsTo_array_cons_iff,
        List.mem_map]
      refine or_congr_left ⟨?_, ?_⟩
      · rintro ⟨place, member, same⟩
        cases same
        exact ⟨place.1, (mem_arrays_iff value).1 member, rfl⟩
      · rintro ⟨inner, leads, rfl⟩
        exact ⟨(inner, items), (mem_arrays_iff value).2 leads, rfl⟩

end

theorem ne_nil_of_mem_memberArrays
    {members : List (String × Value)} {place : List String × List Value}
    (member : place ∈ memberArrays members) :
    place.1 ≠ [] := by
  rcases place with ⟨keys, items⟩
  cases (mem_memberArrays_iff members).1 member
  exact List.cons_ne_nil _ _

mutual

/-- The arrays are in document order. -/
theorem pairwise_arrays :
    (value : Value) →
      (arrays value).Pairwise fun first second => Precedes value first.1 second.1
  | .arr items => by
      rw [arrays]
      exact List.pairwise_singleton _ _
  | .obj members => by
      rw [arrays]
      exact pairwise_memberArrays members
  | .null => .nil
  | .bool _ => .nil
  | .num _ => .nil
  | .str _ => .nil

theorem pairwise_memberArrays :
    (members : List (String × Value)) →
      (memberArrays members).Pairwise fun first second => Precedes (.obj members) first.1 second.1
  | [] => .nil
  | (key, value) :: rest => by
      rw [memberArrays]
      refine List.pairwise_append.2 ⟨List.pairwise_map.2 ?_, ?_, ?_⟩
      · exact (pairwise_arrays value).imp fun before => .inside List.mem_cons_self before
      · exact (pairwise_memberArrays rest).imp fun before => before.cons _
      · rintro first firstMember ⟨keys, items⟩ secondMember
        rcases List.mem_map.1 firstMember with ⟨place, _, rfl⟩
        cases (mem_memberArrays_iff rest).1 secondMember with
        | inside member _ =>
            refine .beside (.cons_cons _ ?_)
            exact List.singleton_sublist.2 (List.mem_map_of_mem member)

end

end Value

namespace Candidate

/-! ## Candidates of arrays -/

theorem largest_spec (numbers : List Nat) :
    (largest numbers = 0 ∨ largest numbers ∈ numbers) ∧ ∀ n ∈ numbers, n ≤ largest numbers := by
  have greatest : (0 :: numbers).max? = some (largest numbers) := List.max?_cons'
  rcases List.max?_eq_some_iff.1 greatest with ⟨member, above⟩
  exact ⟨List.mem_cons.1 member, fun n isNumber => above n (List.mem_cons_of_mem _ isNumber)⟩

theorem mem_sampleObjects_iff {items : List Value} {members : Row} :
    members ∈ sampleObjects items ↔ Value.obj members ∈ items.take 3 := by
  rw [sampleObjects, List.mem_filterMap]
  constructor
  · rintro ⟨item, member, isObject⟩
    cases item with
    | obj others =>
        cases isObject
        exact member
    | _ => cases isObject
  · intro member
    exact ⟨_, member, rfl⟩

/-- A candidate says of the array at a place what its pointer is, how long it is, whether there is an
object among its first items, and how many members the largest of these objects has. -/
structure Describes (candidate : Candidate) (keys : List String) (items : List Value) : Prop where
  path : candidate.path = Pointer.join keys
  arrayLength : candidate.arrayLength = items.length
  hasObjectItems :
    candidate.hasObjectItems = true ↔ ∃ members, Value.obj members ∈ items.take 3
  fieldCount_attained :
    candidate.objectFieldCount = 0 ∨
      ∃ members, Value.obj members ∈ items.take 3 ∧ candidate.objectFieldCount = members.length
  fieldCount_largest :
    ∀ members, Value.obj members ∈ items.take 3 → members.length ≤ candidate.objectFieldCount
  depth : candidate.depth = (keys.filter fun key => !key.isEmpty).length

theorem ofArray_describes (keys : List String) (items : List Value) :
    (ofArray (Pointer.join keys) items).Describes keys items where
  path := rfl
  arrayLength := rfl
  hasObjectItems := by
    simp only [← mem_sampleObjects_iff]
    change (!(sampleObjects items).isEmpty) = true ↔ _
    rw [Bool.not_eq_true', List.isEmpty_eq_false_iff_exists_mem]
  fieldCount_attained := by
    rcases (largest_spec ((sampleObjects items).map List.length)).1 with none | attained
    · exact .inl (congrArg Int.ofNat none)
    · rcases List.mem_map.1 attained with ⟨members, member, count⟩
      exact .inr ⟨members, mem_sampleObjects_iff.1 member, congrArg Int.ofNat count.symm⟩
  fieldCount_largest := by
    intro members member
    have counted := List.mem_map_of_mem (f := List.length) (mem_sampleObjects_iff.2 member)
    exact Int.ofNat_le.2 ((largest_spec ((sampleObjects items).map List.length)).2 _ counted)
  depth := by
    change ((Pointer.split (Pointer.join keys)).length : Int) = _
    rw [Pointer.split_join]

/-! ## Candidates of a document -/

mutual

/-- The candidates of a value are those of its arrays, as deep as is asked for. An array is a
candidate at any depth. -/
theorem below_eq
    {maxDepth : Int} (keys : List String) :
    (value : Value) →
      below maxDepth keys value =
        ((Value.arrays value).filter fun place =>
            place.1.isEmpty || (keys.length + place.1.length : Int) ≤ maxDepth + 1).map
          fun place => ofArray (Pointer.join (keys ++ place.1)) place.2
  | .arr items => by
      rw [below, Value.arrays, List.filter_cons_of_pos rfl]
      simp
  | .obj members => by
      have inside : ∀ place ∈ Value.memberArrays members,
          (place.1.isEmpty || decide ((keys.length + place.1.length : Int) ≤ maxDepth + 1)) =
            decide ((keys.length + place.1.length : Int) ≤ maxDepth + 1) := by
        intro place member
        rw [List.isEmpty_eq_false_iff.2 (Value.ne_nil_of_mem_memberArrays member), Bool.false_or]
      rw [below, Value.arrays, List.filter_congr inside]
      split
      · rename_i shallow
        have none : ∀ place ∈ Value.memberArrays members,
            ¬ decide ((keys.length + place.1.length : Int) ≤ maxDepth + 1) = true := by
          intro place member
          have some := List.length_pos_iff.2 (Value.ne_nil_of_mem_memberArrays member)
          rw [decide_eq_true_iff]
          omega
        rw [List.filter_eq_nil_iff.2 none, List.map_nil]
      · rename_i deep
        exact belowMembers_eq keys (Int.not_lt.1 deep) members
  | .null => rfl
  | .bool _ => rfl
  | .num _ => rfl
  | .str _ => rfl

theorem belowMembers_eq
    {maxDepth : Int} (keys : List String) (deep : keys.length ≤ maxDepth) :
    (members : List (String × Value)) →
      belowMembers maxDepth keys members =
        ((Value.memberArrays members).filter fun place =>
            (keys.length + place.1.length : Int) ≤ maxDepth + 1).map
          fun place => ofArray (Pointer.join (keys ++ place.1)) place.2
  | [] => rfl
  | (key, value) :: rest => by
      rw [belowMembers, Value.memberArrays, belowMembers_eq keys deep rest,
        below_eq (keys ++ [key]) value, List.filter_append, List.map_append, List.filter_map,
        List.map_map]
      refine congrArg (· ++ _) ?_
      have sameDepth (place : List String × List Value) :
          (place.1.isEmpty ||
              decide (((keys ++ [key]).length + place.1.length : Int) ≤ maxDepth + 1)) =
            decide ((keys.length + (key :: place.1).length : Int) ≤ maxDepth + 1) := by
        rw [List.length_append, List.length_singleton, List.length_cons]
        cases place.1 with
        | nil => simpa using deep
        | cons _ rest =>
            rw [List.isEmpty_cons, Bool.false_or]
            exact decide_eq_decide.2 (by push_cast; omega)
      simp only [sameDepth]
      simp [Function.comp_def]

end

theorem exists_place_of_mem_all
    {document : Value} {maxDepth : Int} {candidate : Candidate}
    (member : candidate ∈ all document maxDepth) :
    ∃ keys items, Value.LeadsTo document keys (.arr items) ∧
      candidate = ofArray (Pointer.join keys) items := by
  rw [all, below_eq, List.mem_map] at member
  rcases member with ⟨⟨keys, items⟩, isPlace, rfl⟩
  exact ⟨keys, items, (Value.mem_arrays_iff document).1 (List.mem_filter.1 isPlace).1, rfl⟩

/-! ## Candidates of an object -/

section Objects

variable {members : Row} {maxDepth : Int}

/-- The arrays of an object that are no deeper than is asked for, with the keys that lead to them. -/
def placesWithin (members : Row) (maxDepth : Int) : List (List String × List Value) :=
  (Value.memberArrays members).filter fun place => (place.1.length : Int) ≤ maxDepth + 1

theorem all_obj_eq (members : Row) (maxDepth : Int) :
    all (.obj members) maxDepth =
      (placesWithin members maxDepth).map fun place => ofArray (Pointer.join place.1) place.2 := by
  rw [all, below_eq, Value.arrays]
  refine congrArg _ (List.filter_congr fun place member => ?_)
  rw [List.isEmpty_eq_false_iff.2 (Value.ne_nil_of_mem_memberArrays member), Bool.false_or,
    List.length_nil, Int.natCast_zero, Int.zero_add]

theorem mem_placesWithin_iff {keys : List String} {items : List Value} :
    (keys, items) ∈ placesWithin members maxDepth ↔
      Value.LeadsTo (.obj members) keys (.arr items) ∧
        1 ≤ keys.length ∧ (keys.length : Int) ≤ maxDepth + 1 := by
  rw [placesWithin, List.mem_filter, decide_eq_true_iff, Value.mem_memberArrays_iff]
  refine and_congr_right fun leadsTo => (and_iff_right ?_).symm
  cases leadsTo
  exact Nat.le_add_left _ _

theorem pairwise_placesWithin :
    (placesWithin members maxDepth).Pairwise fun first second =>
      Value.Precedes (.obj members) first.1 second.1 :=
  (Value.pairwise_memberArrays members).filter _

/-- No keys lead to two arrays. -/
theorem nodup_placesWithin (wellFormed : (Value.obj members).WellFormed) :
    ((placesWithin members maxDepth).map Prod.fst).Nodup := by
  refine List.pairwise_map.2 (pairwise_placesWithin.imp ?_)
  rintro first second before same
  rw [same] at before
  exact before.asymm wellFormed before

/-- No two candidates have one pointer. -/
theorem nodup_paths (wellFormed : (Value.obj members).WellFormed) :
    ((all (.obj members) maxDepth).map Candidate.path).Nodup := by
  have paths : (all (.obj members) maxDepth).map Candidate.path =
      ((placesWithin members maxDepth).map Prod.fst).map Pointer.join := by
    rw [all_obj_eq, List.map_map, List.map_map]
    rfl
  have some {keys : List String} (member : keys ∈ (placesWithin members maxDepth).map Prod.fst) :
      keys ≠ [] := by
    rcases List.mem_map.1 member with ⟨place, isPlace, rfl⟩
    exact Value.ne_nil_of_mem_memberArrays (List.mem_filter.1 isPlace).1
  rw [paths]
  refine List.Nodup.map_on ?_ (nodup_placesWithin wellFormed)
  intro keys member keys' member' same
  exact Pointer.join_injective (some member) (some member') same

/--
The candidates of an object are the arrays that up to `maxDepth + 1` keys lead to through objects, in
document order, each described once. Nothing inside an array is among them.
-/
theorem all_enumerates_arrays
    (wellFormed : (Value.obj members).WellFormed) (maxDepth : Int) :
    ∃ places : List (List String × List Value),
      List.Forall₂ (fun candidate place => candidate.Describes place.1 place.2)
          (all (.obj members) maxDepth) places ∧
        (∀ keys items, (keys, items) ∈ places ↔
          Value.LeadsTo (.obj members) keys (.arr items) ∧
            1 ≤ keys.length ∧ (keys.length : Int) ≤ maxDepth + 1) ∧
        (places.Pairwise fun first second => Value.Precedes (.obj members) first.1 second.1) ∧
        (places.map Prod.fst).Nodup ∧
        ((all (.obj members) maxDepth).map Candidate.path).Nodup ∧
        ∀ keys items more, Value.LeadsTo (.obj members) keys (.arr items) → more ≠ [] →
          keys ++ more ∉ places.map Prod.fst := by
  refine ⟨placesWithin members maxDepth, ?_, fun _ _ => mem_placesWithin_iff,
    pairwise_placesWithin, nodup_placesWithin wellFormed, nodup_paths wellFormed, ?_⟩
  · rw [all_obj_eq, List.forall₂_map_left_iff]
    exact List.forall₂_same.2 fun place _ => ofArray_describes place.1 place.2
  · intro keys items more leads some member
    rcases List.mem_map.1 member with ⟨⟨_, others⟩, isPlace, rfl⟩
    exact some (leads.eq_nil_of_array wellFormed (mem_placesWithin_iff.1 isPlace).1)

end Objects

/-- An array beside an object is found as the ones in the object are, but not an array in an array or
one too deep. -/
theorem all_enumerates_arrays_nested :
    let row := Value.obj [("x", .ofNat 1), ("y", .null)]
    let document : Row :=
      [("a", .obj [("b", .arr [.null, row]), ("c", .obj [("d", .arr [])])]), ("", .arr [.arr [row]])]
    ∃ places : List (List String × List Value),
      List.Forall₂ (fun candidate place => candidate.Describes place.1 place.2)
          (all (.obj document) 1) places ∧
        (["a", "b"], [.null, row]) ∈ places ∧ ([""], [.arr [row]]) ∈ places ∧
        ["", "0"] ∉ places.map Prod.fst ∧ ["a", "c", "d"] ∉ places.map Prod.fst := by
  intro row document
  have wellFormed : (Value.obj document).WellFormed := by
    simp [document, row, Value.ofNat, or_imp, forall_and]
  rcases all_enumerates_arrays wellFormed 1 with ⟨places, described, leads, _, _, _, closed⟩
  have atEmpty : Value.LeadsTo (.obj document) [""] (.arr [.arr [row]]) :=
    .inside (by simp [document]) (.here _)
  have nested : Value.LeadsTo (.obj document) ["a", "b"] (.arr [.null, row]) :=
    .inside List.mem_cons_self (.inside List.mem_cons_self (.here _))
  refine ⟨places, described, (leads _ _).2 ⟨nested, by decide, by decide⟩,
    (leads _ _).2 ⟨atEmpty, by decide, by decide⟩, closed [""] _ ["0"] atEmpty (by decide), ?_⟩
  intro member
  rcases List.mem_map.1 member with ⟨⟨keys, items⟩, isPlace, rfl⟩
  exact absurd ((leads _ _).1 isPlace).2.2 (by decide)

end Candidate

end RowPlan
