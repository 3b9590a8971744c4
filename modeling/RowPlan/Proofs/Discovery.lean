import RowPlan.Proofs.Discovery.Places

/-!
# Chosen candidates

Ranking candidates only puts them into another order, so a chosen one is a candidate of the document,
made from an array and from the keys that lead to it. Its pointer always says something.
-/

namespace RowPlan

namespace Discovery

theorem mem_ranked_iff
    {document : Value} {goal : String} {maxDepth : Int} {scored : ScoredCandidate} :
    scored ∈ ranked document goal maxDepth ↔
      ∃ candidate ∈ Candidate.all document maxDepth,
        scored = ⟨candidate, candidate.score (Goal.words goal)⟩ := by
  simp [ranked, ScoredCandidate.rank, eq_comm]

theorem choose_eq_ok_iff
    {document : Value} {candidates : List ScoredCandidate} {best : ScoredCandidate} :
    choose document candidates = .ok best ↔
      isContainer document = true ∧ candidates.find? (·.candidate.isEligible) = some best := by
  rw [choose]
  cases isContainer document with
  | false => exact ⟨nofun, nofun⟩
  | true =>
      rw [Bool.not_true, if_neg Bool.false_ne_true]
      cases candidates with
      | nil => exact ⟨nofun, nofun⟩
      | cons first rest =>
          rw [List.isEmpty_cons, if_neg Bool.false_ne_true]
          cases (first :: rest).find? (·.candidate.isEligible) with
          | none => exact ⟨nofun, nofun⟩
          | some found => rw [Except.ok.injEq, Option.some.injEq, and_iff_right rfl]

theorem mem_of_choose_eq_ok
    {document : Value} {candidates : List ScoredCandidate} {best : ScoredCandidate}
    (chosen : choose document candidates = .ok best) :
    best ∈ candidates :=
  List.mem_of_find?_eq_some (choose_eq_ok_iff.1 chosen).2

/-- The chosen candidate is an array of the document, under the keys that lead to it. -/
theorem chosen_eq_ofArray
    {document : Value} {goal : String} {maxDepth : Int} {best : ScoredCandidate}
    (chosen : (run document goal maxDepth).chosen = .ok best) :
    ∃ path items, best.candidate = Candidate.ofArray (Pointer.join path) items := by
  rcases mem_ranked_iff.1 (mem_of_choose_eq_ok chosen) with ⟨candidate, found, rfl⟩
  rcases Candidate.exists_place_of_mem_all found with ⟨keys, items, _, made⟩
  exact ⟨keys, items, made⟩

end Discovery

end RowPlan
