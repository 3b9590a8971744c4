import RowPlan.Proofs.Discovery.RecordPaths

/-!
# The ranking of candidates

The candidates of a document are ranked by score, then by depth, then by their order in the document.
The first that may hold records is chosen, which need not be the first of the ranking.

A ranking only compares scores and depths and keeps the order of the candidates that are alike in both.
With the positions beside the candidates nothing is alike any more: the ranking is in one strict order,
and the chosen candidate is the least of the eligible ones.
-/

namespace RowPlan

/-! ## The order -/

namespace ScoredCandidate

/-- A candidate with its position in the document is ranked before another one: by a higher score, else
by a lower depth, else by an earlier position. -/
inductive RankedBefore : ScoredCandidate × Nat → ScoredCandidate × Nat → Prop where
  | byScore {first second} :
      second.1.score < first.1.score → RankedBefore first second
  | byDepth {first second} :
      first.1.score = second.1.score → first.1.candidate.depth < second.1.candidate.depth →
      RankedBefore first second
  | byPosition {first second} :
      first.1.score = second.1.score → first.1.candidate.depth = second.1.candidate.depth →
      first.2 < second.2 → RankedBefore first second

theorem RankedBefore.asymm
    {first second : ScoredCandidate × Nat} (before : RankedBefore first second) :
    ¬ RankedBefore second first := by
  rintro (higher | ⟨sameScore, lower⟩ | ⟨sameScore, sameDepth, earlier⟩)
  · cases before <;> omega
  · cases before <;> omega
  · cases before <;> omega

theorem precedes_iff (first second : ScoredCandidate) :
    first.precedes second = true ↔
      second.score < first.score ∨
        first.score = second.score ∧ first.candidate.depth ≤ second.candidate.depth := by
  simp [precedes]

theorem precedes_trans
    (first second third : ScoredCandidate) (before : first.precedes second = true)
    (after : second.precedes third = true) :
    first.precedes third = true := by
  rw [precedes_iff] at before after ⊢
  omega

theorem precedes_total (first second : ScoredCandidate) :
    (first.precedes second || second.precedes first) = true := by
  rw [Bool.or_eq_true, precedes_iff, precedes_iff]
  omega

/-- Comparing candidates with different positions, first by rank and then by position, puts the one
first that is ranked before the other. -/
theorem rankedBefore_of_zipIdxLE
    {first second : ScoredCandidate × Nat} (apart : first.2 ≠ second.2)
    (before : List.zipIdxLE precedes first second = true) :
    RankedBefore first second := by
  rw [List.zipIdxLE] at before
  split at before
  · rename_i notBehind
    rw [precedes_iff] at notBehind
    split at before
    · rename_i alike
      rw [precedes_iff] at alike
      rw [decide_eq_true_iff] at before
      exact .byPosition (by omega) (by omega) (by omega)
    · rename_i strictly
      rw [precedes_iff] at strictly
      rcases notBehind with higher | ⟨sameScore, _⟩
      · exact .byScore higher
      · exact .byDepth sameScore (by omega)
  · cases before

/-- Ranked candidates, read with their positions, are in strict order. -/
theorem exists_ranking (candidates : List ScoredCandidate) :
    ∃ ranking : List (ScoredCandidate × Nat),
      ranking.Perm candidates.zipIdx ∧ ranking.Pairwise RankedBefore ∧
        ranking.map Prod.fst = rank candidates := by
  let ranking := candidates.zipIdx.mergeSort (List.zipIdxLE precedes)
  have complete : ranking.Perm candidates.zipIdx := List.mergeSort_perm _ _
  have apart : ranking.Pairwise fun first second => first.2 ≠ second.2 := by
    rw [← List.pairwise_map (f := Prod.snd) (R := fun i j => i ≠ j)]
    refine (complete.map Prod.snd).nodup_iff.2 ?_
    rw [List.zipIdx_map_snd]
    exact List.nodup_range'
  have inOrder : ranking.Pairwise fun first second =>
      List.zipIdxLE precedes first second = true :=
    List.pairwise_mergeSort (List.zipIdxLE_trans precedes_trans)
      (List.zipIdxLE_total precedes_total) _
  refine ⟨ranking, complete, ?_, List.mergeSort_zipIdx⟩
  exact apart.imp₂ (fun _ _ => rankedBefore_of_zipIdxLE) inOrder

end ScoredCandidate

open ScoredCandidate (RankedBefore)

/-! ## The choice -/

/-- In a list in strict order, the first item with a property is the one before which no other item
with the property is. -/
theorem find?_eq_some_iff_of_pairwise
    {α : Type} {before : α → α → Prop} (asymm : ∀ {a b}, before a b → ¬ before b a)
    {items : List α} (sorted : items.Pairwise before) {property : α → Bool} {item : α} :
    items.find? property = some item ↔
      item ∈ items ∧ property item = true ∧
        ∀ other ∈ items, property other = true → ¬ before other item := by
  rw [List.find?_eq_some_iff_append]
  constructor
  · rintro ⟨has, earlier, later, rfl, lack⟩
    refine ⟨by simp, has, ?_⟩
    intro other member otherHas isBefore
    rcases List.mem_append.1 member with isEarlier | isLater
    · have lacks := lack other isEarlier
      rw [otherHas] at lacks
      cases lacks
    · rcases List.mem_cons.1 isLater with rfl | isLater
      · exact asymm isBefore isBefore
      · have follows := (List.pairwise_cons.1 (List.pairwise_append.1 sorted).2.1).1
        exact asymm (follows other isLater) isBefore
  · rintro ⟨member, has, least⟩
    rcases List.append_of_mem member with ⟨earlier, later, rfl⟩
    refine ⟨has, earlier, later, rfl, ?_⟩
    intro other isEarlier
    rw [Bool.not_eq_true', Bool.eq_false_iff]
    intro otherHas
    have precedes := (List.pairwise_append.1 sorted).2.2 other isEarlier item List.mem_cons_self
    exact least other (List.mem_append_left _ isEarlier) otherHas precedes

/-- A candidate of a document may hold its records: it is the whole document, or its array has an
object among the first three items or is empty. -/
def Candidate.MayHoldRecords (document : Value) (candidate : Candidate) : Prop :=
  ∃ keys items, Value.LeadsTo document keys (.arr items) ∧ candidate.Describes keys items ∧
    (candidate.path = Pointer.root ∨ (∃ members, Value.obj members ∈ items.take 3) ∨ items = [])

theorem Candidate.isEligible_iff_mayHoldRecords
    {document : Value} {maxDepth : Int} {candidate : Candidate}
    (listed : candidate ∈ all document maxDepth) :
    candidate.isEligible = true ↔ candidate.MayHoldRecords document := by
  constructor
  · intro eligible
    rcases exists_place_of_mem_all listed with ⟨keys, items, leads, rfl⟩
    have described := ofArray_describes keys items
    exact ⟨keys, items, leads, described, described.isEligible_iff.1 eligible⟩
  · rintro ⟨keys, items, _, described, holds⟩
    exact described.isEligible_iff.2 holds

namespace Discovery

/-- The candidates of a document in document order, with their scores. -/
def scored (document : Value) (goal : String) (maxDepth : Int) : List ScoredCandidate :=
  (Candidate.all document maxDepth).map fun candidate =>
    ⟨candidate, candidate.score (Goal.words goal)⟩

theorem mem_zipIdx_scored
    {document : Value} {goal : String} {maxDepth : Int} {entry : ScoredCandidate × Nat}
    (listed : entry ∈ (scored document goal maxDepth).zipIdx) :
    entry.1.candidate ∈ Candidate.all document maxDepth ∧
      entry.1.score = entry.1.candidate.score (Goal.words goal) := by
  have isScored := List.fst_mem_of_mem_zipIdx listed
  rcases List.mem_map.1 isScored with ⟨candidate, member, same⟩
  rw [← same]
  exact ⟨member, rfl⟩

section Choice

variable {document : Value} {goal : String} {maxDepth : Int}

theorem exists_chosen_iff (container : isContainer document = true) :
    (∃ best, (run document goal maxDepth).chosen = .ok best) ↔
      ∃ candidate ∈ Candidate.all document maxDepth, candidate.MayHoldRecords document := by
  have isFound :
      (∃ best, (run document goal maxDepth).chosen = .ok best) ↔
        ∃ scored ∈ ranked document goal maxDepth, scored.candidate.isEligible = true := by
    change (∃ best, choose document (ranked document goal maxDepth) = .ok best) ↔ _
    simp only [choose_eq_ok_iff, container, true_and]
    rw [← Option.isSome_iff_exists, List.find?_isSome]
  rw [isFound]
  constructor
  · rintro ⟨scored, isRanked, eligible⟩
    rcases mem_ranked_iff.1 isRanked with ⟨candidate, listed, rfl⟩
    exact ⟨candidate, listed, (Candidate.isEligible_iff_mayHoldRecords listed).1 eligible⟩
  · rintro ⟨candidate, listed, holds⟩
    refine ⟨_, mem_ranked_iff.2 ⟨candidate, listed, rfl⟩, ?_⟩
    exact (Candidate.isEligible_iff_mayHoldRecords listed).2 holds

/-- The chosen candidate is the first of a ranking that is eligible. -/
theorem chosen_eq_ok_iff
    (container : isContainer document = true) {ranking : List (ScoredCandidate × Nat)}
    (isRanking : ranking.map Prod.fst = ranked document goal maxDepth) (best : ScoredCandidate) :
    (run document goal maxDepth).chosen = .ok best ↔
      ∃ position, ranking.find? (·.1.candidate.isEligible) = some (best, position) := by
  change choose document (ranked document goal maxDepth) = .ok best ↔ _
  rw [choose_eq_ok_iff, and_iff_right container, ← isRanking, List.find?_map,
    Option.map_eq_some_iff]
  constructor
  · rintro ⟨⟨found, position⟩, isFirst, rfl⟩
    exact ⟨position, isFirst⟩
  · rintro ⟨position, isFirst⟩
    exact ⟨(best, position), isFirst, rfl⟩

/--
The candidates of an object or an array are ranked by score, then by depth, then by their order in the
document. One is chosen exactly if some candidate may hold the records, and it is the one among those
that no other one among them is ranked before.
-/
theorem run_chooses_least_eligible
    (container : isContainer document = true) (goal : String) (maxDepth : Int) :
    ∃ ranking : List (ScoredCandidate × Nat),
      ranking.Perm (scored document goal maxDepth).zipIdx ∧
        ranking.Pairwise RankedBefore ∧
        (run document goal maxDepth).candidates = ranking.map Prod.fst ∧
        ((∃ best, (run document goal maxDepth).chosen = .ok best) ↔
          ∃ candidate ∈ Candidate.all document maxDepth, candidate.MayHoldRecords document) ∧
        (∀ best, (run document goal maxDepth).chosen = .ok best ↔
          ∃ position, (best, position) ∈ ranking ∧ best.candidate.MayHoldRecords document ∧
            ∀ other ∈ ranking, other.1.candidate.MayHoldRecords document →
              ¬ RankedBefore other (best, position)) ∧
        ∀ best, (run document goal maxDepth).chosen = .ok best →
          (run document goal maxDepth).recordPath? = some best.candidate.path ∧
            best.score = best.candidate.score (Goal.words goal) := by
  rcases ScoredCandidate.exists_ranking (scored document goal maxDepth) with
    ⟨ranking, complete, sorted, isRanking⟩
  have listed (entry : ScoredCandidate × Nat) (member : entry ∈ ranking) :=
    mem_zipIdx_scored (complete.mem_iff.1 member)
  have eligible_iff (entry : ScoredCandidate × Nat) (member : entry ∈ ranking) :
      entry.1.candidate.isEligible = true ↔ entry.1.candidate.MayHoldRecords document :=
    Candidate.isEligible_iff_mayHoldRecords (listed entry member).1
  have chosen_iff (best : ScoredCandidate) :
      (run document goal maxDepth).chosen = .ok best ↔
        ∃ position, (best, position) ∈ ranking ∧ best.candidate.MayHoldRecords document ∧
          ∀ other ∈ ranking, other.1.candidate.MayHoldRecords document →
            ¬ RankedBefore other (best, position) := by
    rw [chosen_eq_ok_iff container isRanking]
    refine exists_congr fun position => ?_
    rw [find?_eq_some_iff_of_pairwise RankedBefore.asymm sorted]
    refine and_congr_right fun member => and_congr (eligible_iff _ member) ?_
    exact forall₂_congr fun other isOther => imp_congr_left (eligible_iff other isOther)
  refine ⟨ranking, complete, sorted, isRanking.symm, exists_chosen_iff container, chosen_iff, ?_⟩
  intro best chosen
  rcases (chosen_iff best).1 chosen with ⟨position, member, _⟩
  refine ⟨?_, (listed _ member).2⟩
  rw [recordPath?, chosen]
  rfl

/-- An empty array is chosen although an array of numbers is ranked before it. -/
theorem run_chooses_least_eligible_empty :
    let document := Value.obj [("values", .arr [.ofNat 1, .ofNat 2, .ofNat 3]), ("x", .arr [])]
    isContainer document = true ∧
      ∃ numbers empty, (run document "" 3).candidates = [numbers, empty] ∧
        numbers.candidate.path = "/values" ∧ empty.candidate.path = "/x" ∧
        (run document "" 3).chosen = .ok empty ∧ (run document "" 3).recordPath? = some "/x" := by
  intro document
  have container : isContainer document = true := rfl
  let numbers : ScoredCandidate :=
    ⟨.ofArray "/values" [.ofNat 1, .ofNat 2, .ofNat 3], 66⟩
  let empty : ScoredCandidate := ⟨.ofArray "/x" [], 20⟩
  have scoredEq : (scored document "" 3).zipIdx = [(numbers, 0), (empty, 1)] := rfl
  have higher : RankedBefore (numbers, 0) (empty, 1) := .byScore (by decide)
  have listed (candidate : Candidate)
      (member : candidate ∈ [numbers.candidate, empty.candidate]) :
      candidate ∈ Candidate.all document 3 := member
  rcases run_chooses_least_eligible container "" 3 with
    ⟨ranking, complete, sorted, ranked, _, chosen_iff, path⟩
  have isRanking : ranking = [(numbers, 0), (empty, 1)] := by
    rw [scoredEq] at complete
    refine List.Perm.eq_of_pairwise ?_ sorted (List.pairwise_pair.2 higher) complete
    exact fun first second _ _ before after => absurd after before.asymm
  subst isRanking
  have chosen : (run document "" 3).chosen = .ok empty := by
    refine (chosen_iff empty).2 ⟨1, by simp, ?_, ?_⟩
    · exact (Candidate.isEligible_iff_mayHoldRecords (listed _ (by simp))).1 rfl
    · intro other member holds
      rcases List.mem_pair.1 member with rfl | rfl
      · have eligible := (Candidate.isEligible_iff_mayHoldRecords (listed _ (by simp))).2 holds
        cases eligible
      · exact fun before => before.asymm before
  exact ⟨container, numbers, empty, ranked, rfl, rfl, chosen, (path empty chosen).1⟩

end Choice

end Discovery

end RowPlan
