import RowPlan.Proofs.Discovery

/-!
# Where the pointers of candidates lead

A candidate is named by the pointer that joins the keys of its array. Reading a pointer leaves empty
segments out, so the pointer leads to the array unless one of the keys is empty. The pointer to an
array under the empty key alone is that of the whole document, and such an array is chosen whatever it
holds.
-/

namespace RowPlan

theorem Pointer.join_eq_root_iff (keys : List String) :
    join keys = root ↔ keys = [] ∨ keys = [""] := by
  constructor
  · intro isRoot
    by_cases none : keys = []
    · exact .inl none
    · exact .inr (join_injective none (List.cons_ne_nil _ _) isRoot)
  · rintro (rfl | rfl)
    · rfl
    · rfl

theorem Pointer.resolve_join (document : Value) (keys : List String) :
    resolve document (join keys) = follow document (keys.filter fun key => !key.isEmpty) := by
  rw [resolve, split_join]

/-- Where no key is empty, a pointer leads where its keys do. -/
theorem Value.LeadsTo.resolve
    {document target : Value} {keys : List String} (wellFormed : document.WellFormed)
    (leads : LeadsTo document keys target) (named : "" ∉ keys) :
    Pointer.resolve document (Pointer.join keys) = some target := by
  have allNamed : keys.filter (fun key => !key.isEmpty) = keys := by
    refine List.filter_eq_self.2 fun key member => ?_
    rw [Bool.not_eq_true', ← Bool.not_eq_true, String.isEmpty_iff]
    rintro rfl
    exact named member
  rw [Pointer.resolve_join, allNamed]
  exact leads.follow wellFormed

theorem Candidate.Describes.isEligible_iff
    {candidate : Candidate} {keys : List String} {items : List Value}
    (described : candidate.Describes keys items) :
    candidate.isEligible = true ↔
      candidate.path = Pointer.root ∨ (∃ members, Value.obj members ∈ items.take 3) ∨ items = [] := by
  have isEmpty : ((items.length : Int) == 0) = true ↔ items = [] := by
    rw [beq_iff_eq, Int.natCast_eq_zero, List.length_eq_zero_iff]
  rw [isEligible, Bool.or_eq_true, Bool.or_eq_true, described.hasObjectItems, described.arrayLength,
    isEmpty, beq_iff_eq, or_assoc]

/-- A candidate may be chosen if it has the pointer of the whole document, has objects among its first
items, or is empty. -/
theorem Candidate.isEligible_ofArray_iff (keys : List String) (items : List Value) :
    (ofArray (Pointer.join keys) items).isEligible = true ↔
      (keys = [] ∨ keys = [""]) ∨ (∃ members, Value.obj members ∈ items.take 3) ∨ items = [] := by
  have described := ofArray_describes keys items
  rw [described.isEligible_iff, described.path, Pointer.join_eq_root_iff]

namespace Discovery

theorem isEligible_of_chosen
    {document : Value} {goal : String} {maxDepth : Int} {best : ScoredCandidate}
    (chosen : (run document goal maxDepth).chosen = .ok best) :
    best.candidate.isEligible = true := by
  change choose document (ranked document goal maxDepth) = .ok best at chosen
  exact List.find?_some (p := fun scored : ScoredCandidate => scored.candidate.isEligible)
    (choose_eq_ok_iff.1 chosen).2

/--
Every candidate is an array that some keys lead to, named by the pointer of these keys, which is
followed without the empty ones. Where no key is empty it leads to the array. An array that is chosen
in an object is empty or has objects among its first items, unless its only key is empty.
-/
theorem paths_lead_to_arrays
    {document : Value} (wellFormed : document.WellFormed) (goal : String) (maxDepth : Int)
    {scored : ScoredCandidate} (offered : scored ∈ (run document goal maxDepth).candidates) :
    ∃ keys items,
      Value.LeadsTo document keys (.arr items) ∧
        scored.candidate.path = Pointer.join keys ∧
        scored.candidate.arrayLength = items.length ∧
        Pointer.resolve document scored.candidate.path =
          Pointer.follow document (keys.filter fun key => !key.isEmpty) ∧
        ("" ∉ keys → Pointer.resolve document scored.candidate.path = some (.arr items)) ∧
        ((run document goal maxDepth).chosen = .ok scored →
          ∀ members, document = .obj members → keys ≠ [""] →
            items = [] ∨ ∃ fields, Value.obj fields ∈ items.take 3) := by
  rcases mem_ranked_iff.1 offered with ⟨candidate, isCandidate, rfl⟩
  rcases Candidate.exists_place_of_mem_all isCandidate with ⟨keys, items, leads, rfl⟩
  refine ⟨keys, items, leads, rfl, rfl, Pointer.resolve_join document keys,
    leads.resolve wellFormed, ?_⟩
  rintro chosen members rfl notEmptyKey
  have eligible := isEligible_of_chosen chosen
  rcases (Candidate.isEligible_ofArray_iff keys items).1 eligible with
    (rfl | emptyKey) | objects | empty
  · cases leads
  · exact absurd emptyKey notEmptyKey
  · exact .inr objects
  · exact .inl empty

/-- A pointer to keys with a slash, a tilde and a digit leads to their array. -/
theorem paths_lead_to_arrays_escaped :
    let document := Value.obj [("km/h", .obj [("~1", .obj [("0", .arr [.obj [], .null])])])]
    ∃ scored items,
      scored ∈ (run document "" 3).candidates ∧ scored.candidate.path = "/km~1h/~01/0" ∧
        Value.LeadsTo document ["km/h", "~1", "0"] (.arr items) ∧
        Pointer.resolve document scored.candidate.path = some (.arr items) := by
  intro document
  have wellFormed : document.WellFormed := by simp [document]
  have listed : Candidate.ofArray "/km~1h/~01/0" [.obj [], .null] ∈ Candidate.all document 3 := by
    subst document
    exact List.mem_singleton.2 rfl
  have offered : _ ∈ (run document "" 3).candidates := mem_ranked_iff.2 ⟨_, listed, rfl⟩
  rcases paths_lead_to_arrays wellFormed "" 3 offered with
    ⟨keys, items, leads, path, _, _, resolved, _⟩
  have some : keys ≠ [] := by
    rintro rfl
    exact absurd path (by decide)
  have same : ["km/h", "~1", "0"] = keys := Pointer.join_injective (by decide) some path
  subst same
  exact ⟨_, items, offered, rfl, leads, resolved (by decide)⟩

/-- An array under the empty key is chosen without objects in it, and its pointer leads to the whole
document. -/
theorem array_under_empty_key_chosen :
    let document := Value.obj [("", .arr [.ofNat 1, .ofNat 2, .ofNat 3])]
    document.WellFormed ∧
      ∃ best, (run document "" 3).chosen = .ok best ∧
        best ∈ (run document "" 3).candidates ∧ best.candidate.arrayLength = 3 ∧
        best.candidate.hasObjectItems = false ∧
        Pointer.resolve document best.candidate.path = some document := by
  intro document
  let candidate := Candidate.ofArray "/" [.ofNat 1, .ofNat 2, .ofNat 3]
  have only : (run document "" 3).candidates = [⟨candidate, candidate.score (Goal.words "")⟩] :=
    List.mergeSort_singleton _
  have chosen : (run document "" 3).chosen = .ok ⟨candidate, candidate.score (Goal.words "")⟩ := by
    change choose document (run document "" 3).candidates = _
    rw [only]
    rfl
  refine ⟨by simp [document, Value.ofNat], _, chosen, ?_, rfl, rfl, ?_⟩
  · rw [only]
    exact List.mem_singleton.2 rfl
  · exact Pointer.resolve_join document []

end Discovery

end RowPlan
