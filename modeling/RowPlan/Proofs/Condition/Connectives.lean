import Mathlib.Logic.Function.Basic
import RowPlan.Expr.Truth

/-!
# Three-valued connectives

Conjunction and disjunction go through their parts in order, up to the first one that decides, and keep in
mind whether a part was unknown. What they come to does not depend on the order: a deciding part decides
wherever it stands, otherwise an unknown part leaves the whole unknown.

Parts may also be outcomes that fail. Then the order matters, but only for whether the whole fails: it does
where a failing part comes before all deciding ones.
-/

namespace RowPlan.Truth

/-- The opposite of a truth has the opposite truths. -/
theorem negate_involutive : Function.Involutive negate := by
  rintro (_ | _ | _) <;> rfl

/-- What parts come to if `deciding` is the truth that decides. -/
def joined (deciding pending : Bool) (parts : List (Option Bool)) : Option Bool :=
  if some deciding ∈ parts then some deciding
  else if pending = true ∨ none ∈ parts then none
  else some !deciding

theorem joined_cons (deciding pending : Bool) (part : Option Bool) (rest : List (Option Bool)) :
    joined deciding pending (part :: rest) =
      if part = some deciding then some deciding
      else joined deciding (pending || part.isNone) rest := by
  by_cases decides : part = some deciding
  · simp [joined, decides]
  · rw [if_neg decides, joined, joined]
    simp only [List.mem_cons, Ne.symm decides, false_or, Bool.or_eq_true, Option.isNone_iff_eq_none,
      eq_comm (a := none), or_assoc]

section Loop

variable {m : Type → Type} [Monad m] [LawfulMonad m]

/-- On parts that are truths, the loop finds what they come to. -/
theorem decideBy_map_pure (deciding pending : Bool) (parts : List (Option Bool)) :
    decideBy deciding pending (parts.map (pure : Option Bool → m (Option Bool))) =
      pure (joined deciding pending parts) := by
  induction parts generalizing pending with
  | nil => simp [decideBy, joined]
  | cons part rest later =>
      rw [List.map_cons, decideBy, pure_bind, joined_cons]
      cases part with
      | none => simp [later]
      | some truth =>
          by_cases decides : truth = deciding
          · simp [decides]
          · simp [decides, later]

theorem all_map_pure (parts : List (Option Bool)) :
    all (parts.map (pure : Option Bool → m (Option Bool))) = pure (joined false false parts) :=
  decideBy_map_pure false false parts

theorem any_map_pure (parts : List (Option Bool)) :
    any (parts.map (pure : Option Bool → m (Option Bool))) = pure (joined true false parts) :=
  decideBy_map_pure true false parts

end Loop

/-! ## Parts that may fail -/

section Outcomes

variable {ε : Type} {deciding pending : Bool} {parts : List (Except ε (Option Bool))}

/-- Parts after which the loop goes on: they succeed, and do not decide. -/
def Undecided (deciding : Bool) (part : Except ε (Option Bool)) : Prop :=
  ∃ truth, part = .ok truth ∧ truth ≠ some deciding

theorem decideBy_cons_undecided
    {part : Except ε (Option Bool)} (undecided : Undecided deciding part) (pending : Bool)
    (rest : List (Except ε (Option Bool))) :
    ∃ unknown, decideBy deciding pending (part :: rest) = decideBy deciding unknown rest := by
  rcases undecided with ⟨truth | truth, rfl, other⟩
  · exact ⟨true, rfl⟩
  · refine ⟨pending, ?_⟩
    have notDeciding : truth ≠ deciding := fun same => other (congrArg some same)
    change (if truth = deciding then _ else _) = _
    rw [if_neg notDeciding]

/-- The loop fails if and only if a part fails and no part before it decides. -/
theorem decideBy_eq_error_iff {error : ε} :
    decideBy deciding pending parts = .error error ↔
      ∃ before after, parts = before ++ .error error :: after ∧
        ∀ part ∈ before, Undecided deciding part := by
  induction parts generalizing pending with
  | nil => exact iff_of_false (by cases pending <;> nofun) (by simp)
  | cons part rest later =>
      constructor
      · intro failed
        rcases part with error' | truth
        · cases failed
          exact ⟨[], rest, rfl, nofun⟩
        · by_cases decides : truth = some deciding
          · subst decides
            change (if deciding = deciding then _ else _) = _ at failed
            rw [if_pos rfl] at failed
            cases failed
          · have undecided : Undecided deciding (.ok truth : Except ε (Option Bool)) :=
              ⟨truth, rfl, decides⟩
            rcases decideBy_cons_undecided undecided pending rest with ⟨unknown, next⟩
            rcases later.1 (next.symm.trans failed) with ⟨before, after, rfl, each⟩
            exact ⟨.ok truth :: before, after, rfl, List.forall_mem_cons.2 ⟨undecided, each⟩⟩
      · rintro ⟨before, after, split, each⟩
        cases before with
        | nil =>
            cases split
            rfl
        | cons first others =>
            cases split
            rw [List.forall_mem_cons] at each
            rcases decideBy_cons_undecided each.1 pending _ with ⟨unknown, next⟩
            rw [next]
            exact later.2 ⟨others, after, rfl, each.2⟩

/-- Where the loop succeeds, it finds the deciding truth exactly if a part has it, and otherwise leaves the
whole unknown exactly if a part is unknown. -/
theorem decideBy_eq_ok
    {result : Option Bool} (found : decideBy deciding pending parts = .ok result) :
    (result = some deciding ↔ .ok (some deciding) ∈ parts) ∧
      (result = none ↔ .ok (some deciding) ∉ parts ∧ (pending = true ∨ .ok none ∈ parts)) := by
  induction parts generalizing pending with
  | nil => cases pending <;> cases found <;> cases deciding <;> simp
  | cons part rest later =>
      rcases part with error | truth | truth
      · cases found
      · rcases later (show decideBy deciding true rest = .ok result from found) with
          ⟨decided, unknown⟩
        simp [decided, unknown]
      · by_cases decides : truth = deciding
        · subst decides
          change (if truth = truth then _ else _) = _ at found
          rw [if_pos rfl] at found
          cases found
          simp
        · change (if truth = deciding then _ else _) = _ at found
          rw [if_neg decides] at found
          rcases later found with ⟨decided, unknown⟩
          simp [decided, unknown, Ne.symm decides]

/-- The loop finds the truth that does not decide if and only if every part has it. -/
theorem decideBy_eq_opposite_iff :
    decideBy deciding pending parts = .ok (some !deciding) ↔
      pending = false ∧ ∀ part ∈ parts, part = .ok (some !deciding) := by
  induction parts generalizing pending with
  | nil => cases pending <;> simp [decideBy, pure, Except.pure]
  | cons part rest later =>
      rw [List.forall_mem_cons]
      rcases part with error | truth | truth
      · exact iff_of_false nofun (by simp)
      · change decideBy deciding true rest = _ ↔ _
        rw [later]
        exact iff_of_false (by simp) (by simp)
      · by_cases decides : truth = deciding
        · subst decides
          change (if truth = truth then _ else _) = _ ↔ _
          rw [if_pos rfl]
          exact iff_of_false (by simp [pure, Except.pure]) (by simp)
        · change (if truth = deciding then _ else _) = _ ↔ _
          rw [if_neg decides, later]
          have opposite : truth = !deciding := Bool.eq_not_of_ne decides
          simp [opposite]

/-- In another order the parts come to the same, unless they then fail. -/
theorem decideBy_of_perm
    {others : List (Except ε (Option Bool))} (reordered : parts.Perm others)
    {result other : Option Bool} (found : decideBy deciding pending parts = .ok result)
    (foundOther : decideBy deciding pending others = .ok other) :
    result = other := by
  rcases decideBy_eq_ok found with ⟨decided, unknown⟩
  rcases decideBy_eq_ok foundOther with ⟨decided', unknown'⟩
  rw [← reordered.mem_iff] at decided'
  rw [← reordered.mem_iff, ← reordered.mem_iff] at unknown'
  have sameDecided := decided.trans decided'.symm
  have sameUnknown := unknown.trans unknown'.symm
  rcases result with _ | _ | _ <;> rcases other with _ | _ | _ <;> cases deciding <;> simp_all

/-- The opposite of a joined truth is the truth joined the other way of the opposites, failures included. -/
theorem map_negate_decideBy (deciding pending : Bool) (parts : List (Except ε (Option Bool))) :
    (decideBy deciding pending parts).map negate =
      decideBy (!deciding) pending (parts.map (·.map negate)) := by
  induction parts generalizing pending with
  | nil => cases pending <;> rfl
  | cons part rest later =>
      rcases part with error | truth | truth
      · rfl
      · exact later true
      · change (if truth = deciding then _ else decideBy deciding pending rest).map negate =
          if (!truth) = !deciding then _ else decideBy (!deciding) pending _
        by_cases decides : truth = deciding
        · rw [if_pos decides, if_pos (congrArg not decides)]
          rfl
        · rw [if_neg decides, if_neg (fun same => decides (Bool.not_inj same)), later]

end Outcomes

end RowPlan.Truth
