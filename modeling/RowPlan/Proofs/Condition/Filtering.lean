import RowPlan.Proofs.Condition.Stopping
import RowPlan.Proofs.Execution.Progress

/-!
# Filters by joined conditions

A condition is true, false or unknown on a row, and a filter keeps the rows on which it is true. A
conjunction keeps what all of its parts keep, so that it does the work of several filters one after the
other; a disjunction keeps what one of its parts keeps. The order of the parts does not matter.

Negation exchanges true and false and leaves the unknown alone. It turns a conjunction into the
disjunction of the opposites, and the other way round, also where some of the parts are unknown.

A test for containment of a value that has no text stops a condition. The laws of negation hold there as
well. A conjunction, however, goes on after an unknown part, where filters one after the other have dropped
the row, and in another order the parts may be decided before the test is made. So these two laws hold
exactly where both sides come to a missing text or neither does.
-/

namespace RowPlan

open Outcome (FailsFor Succeeds)

/-- A run reaches a certain state, unless a lacking text stops it for a certain cause. -/
structure StepResult.Gives (result : StepResult) (state : State) (cause : Prop) : Prop where
  stops : cause → result = .error (.text .tooManyDigits)
  reaches : ¬ cause → ∃ notes, result = .ok (state, notes)

/-- Two runs that would reach the same state do the same if and only if both or none of them stop. -/
theorem StepResult.Gives.same_iff
    {first second : StepResult} {state : State} {cause other : Prop}
    (firstGives : first.Gives state cause) (secondGives : second.Gives state other) :
    first.map Prod.fst = second.map Prod.fst ↔ (cause ↔ other) := by
  by_cases firstStops : cause <;> by_cases secondStops : other
  · simp [firstGives.stops firstStops, secondGives.stops secondStops, firstStops, secondStops]
  · rcases secondGives.reaches secondStops with ⟨notes, reached⟩
    simp [firstGives.stops firstStops, reached, firstStops, secondStops, Except.map]
  · rcases firstGives.reaches firstStops with ⟨notes, reached⟩
    simp [secondGives.stops secondStops, reached, firstStops, secondStops, Except.map]
  · rcases firstGives.reaches firstStops with ⟨notes, firstReached⟩
    rcases secondGives.reaches secondStops with ⟨more, secondReached⟩
    simp [firstReached, secondReached, firstStops, secondStops, Except.map]

namespace Condition

/-! ## Joined conditions -/

/-- The condition that all of some conditions are true. -/
def conjunction (parts : List Condition) : Condition := node "and" none none (some parts)

/-- The condition that one of some conditions is true. -/
def disjunction (parts : List Condition) : Condition := node "or" none none (some parts)

/-- The opposite of a condition. -/
def negation (part : Condition) : Condition := node "not" none none (some [part])

theorem eval_conjunction (parts : List Condition) (row : Row) :
    (conjunction parts).eval row = Truth.all (parts.map fun part => part.eval row) := by
  rw [conjunction, eval, if_pos rfl, evalOptional, evalParts_eq_map]

theorem eval_disjunction (parts : List Condition) (row : Row) :
    (disjunction parts).eval row = Truth.any (parts.map fun part => part.eval row) := by
  rw [disjunction, eval, if_neg (by decide), if_pos rfl, evalOptional, evalParts_eq_map]

theorem eval_negation (part : Condition) (row : Row) :
    (negation part).eval row = (part.eval row).map Truth.negate := by
  rw [negation, eval, if_neg (by decide), if_neg (by decide), if_pos rfl]
  rfl

/-- What a node that joins conditions holds besides them plays no role. -/
theorem eval_eq_of_parts
    {tree : Condition} (logical : tree.op ∈ logicalOps) (row : Row) :
    tree.eval row = (node tree.op none none (some tree.parts)).eval row := by
  rcases tree with ⟨op, left, right, items⟩
  have sameParts : evalOptional row items = evalOptional row (some (items.getD [])) := by
    rw [evalOptional_eq_map, evalOptional_eq_map, Option.getD_some]
  simp only [Condition.op, logicalOps, List.mem_cons, List.not_mem_nil, or_false] at logical
  rcases logical with rfl | rfl | rfl <;>
    simp only [eval, Condition.op, Condition.parts, sameParts, String.reduceEq, if_false, if_true]

theorem eval_map_negation (parts : List Condition) (row : Row) :
    ((parts.map negation).map fun part => part.eval row) =
      (parts.map fun part => part.eval row).map (·.map Truth.negate) := by
  simp only [List.map_map, Function.comp_def, eval_negation]

theorem stops_iff_eval_eq_error {tree : Condition} {row : Row} :
    tree.Stops row ↔ tree.eval row = .error .tooManyDigits := by
  rw [tree.eval_fails row .tooManyDigits, and_iff_right rfl]

/-- Joined parts stop where the loop comes to a part that stops. -/
theorem decideBy_parts_eq_error_iff {deciding : Bool} {parts : List Condition} {row : Row} :
    Truth.decideBy deciding false (parts.map fun part => part.eval row) = .error .tooManyDigits ↔
      ∃ before part after, parts = before ++ part :: after ∧ part.Stops row ∧
        ∀ earlier ∈ before, Truth.Undecided deciding (earlier.eval row) := by
  constructor
  · intro failed
    rcases exists_part_of_decideBy_eq_error failed with
      ⟨before, part, after, split, partFailed, undecided⟩
    exact ⟨before, part, after, split, stops_iff_eval_eq_error.2 partFailed, undecided⟩
  · rintro ⟨before, part, after, rfl, stops, undecided⟩
    refine Truth.decideBy_eq_error_iff.2
      ⟨before.map fun part => part.eval row, after.map fun part => part.eval row, ?_,
        List.forall_mem_map.2 undecided⟩
    rw [List.map_append, List.map_cons, stops_iff_eval_eq_error.1 stops]

/-! ## Rows that are kept -/

/-- Whether a condition is true on a row, so that a filter keeps the row. -/
def keeps (tree : Condition) (row : Row) : Bool :=
  match tree.eval row with
  | .ok (some true) => true
  | _ => false

theorem keeps_iff {tree : Condition} {row : Row} :
    tree.keeps row = true ↔ tree.eval row = .ok (some true) := by
  rw [keeps]
  split
  · rename_i evaluated
    exact iff_of_true rfl evaluated
  · rename_i other
    exact iff_of_false Bool.false_ne_true other

theorem keeps_conjunction (parts : List Condition) (row : Row) :
    (conjunction parts).keeps row = parts.all fun part => part.keeps row := by
  have allTrue :
      Truth.decideBy false false (parts.map fun part => part.eval row) = .ok (some !false) ↔ _ :=
    Truth.decideBy_eq_opposite_iff
  rw [Bool.eq_iff_iff, keeps_iff, eval_conjunction, List.all_eq_true]
  simpa [Truth.all, keeps_iff] using allTrue

theorem keeps_disjunction
    {parts : List Condition} {row : Row} (ends : ¬ (disjunction parts).Stops row) :
    (disjunction parts).keeps row = parts.any fun part => part.keeps row := by
  rcases ((disjunction parts).eval_fails row).succeeds_iff.2 ends with ⟨result, found⟩
  have oneTrue := (Truth.decideBy_eq_ok (eval_disjunction parts row ▸ found)).1
  rw [Bool.eq_iff_iff, keeps_iff, found, List.any_eq_true, Except.ok.injEq, oneTrue, List.mem_map]
  simp only [keeps_iff]

/-- The step that filters rows by a condition. -/
def filterStep (tree : Condition) : Step := .filter (some (.tree tree))

theorem keepRows_eq_filter
    {tree : Condition} {rows kept : List Row}
    (found : StepResult.keepRows (fun row => tree.eval row) rows = .ok kept) :
    kept = rows.filter tree.keeps := by
  induction rows generalizing kept with
  | nil => exact (Except.ok.inj found).symm
  | cons row rest later =>
      rw [StepResult.keepRows] at found
      rcases Outcome.bind_eq_ok_iff.1 found with ⟨truth, evaluated, others⟩
      rcases Outcome.bind_eq_ok_iff.1 others with ⟨restKept, restFound, result⟩
      rw [later restFound] at result
      rw [← Except.ok.inj result, List.filter_cons]
      have same : tree.keeps row = true ↔ truth = some true := by
        rw [keeps_iff, evaluated, Except.ok.injEq]
      simp only [same]

theorem run_filterStep (tree : Condition) (rows : List Row) (groups : Option (List Group)) :
    (tree.filterStep.run ⟨rows, groups⟩).Gives ⟨rows.filter tree.keeps, groups⟩
      (∃ row ∈ rows, tree.Stops row) := by
  have compiled :
      StepResult.compileFilter (.tree tree) = .ok (tree.references, fun row => tree.eval row) := rfl
  have fails := StepResult.filter_fails compiled ⟨rows, groups⟩
  refine ⟨fails.eq_error, fun quiet => ?_⟩
  rcases fails.succeeds_iff.2 quiet with ⟨⟨reached, notes⟩, ran⟩
  refine ⟨notes, ?_⟩
  cases rows with
  | nil =>
      cases ran
      rfl
  | cons first rest =>
      rcases Outcome.bind_eq_ok_iff.1 ran with ⟨_, ready, filtered⟩
      cases compiled.symm.trans ready
      rcases Outcome.bind_eq_ok_iff.1 filtered with ⟨kept, found, result⟩
      rw [keepRows_eq_filter (Outcome.mapError_eq_ok_iff.1 found)] at result
      cases result
      exact ran

/-- Filters one after the other come to one that stops on a row that all before it have kept. -/
def StopsInTurn (row : Row) : List Condition → Prop
  | [] => False
  | tree :: rest => tree.Stops row ∨ tree.keeps row = true ∧ StopsInTurn row rest

/-- Filters one after the other keep what each of them keeps. -/
theorem runFrom_filterSteps
    (trees : List Condition) (rows : List Row) (groups : Option (List Group)) :
    StepResult.Gives (runFrom ⟨rows, groups⟩ (trees.map filterStep))
      ⟨rows.filter fun row => trees.all fun tree => tree.keeps row, groups⟩
      (∃ row ∈ rows, StopsInTurn row trees) := by
  induction trees generalizing rows with
  | nil => exact ⟨fun ⟨_, _, impossible⟩ => impossible.elim, fun _ => ⟨[], by simp [runFrom]⟩⟩
  | cons tree rest later =>
      have first := tree.run_filterStep rows groups
      have others := later (rows.filter tree.keeps)
      have inTurn :
          (∃ row ∈ rows, StopsInTurn row (tree :: rest)) ↔
            (∃ row ∈ rows, tree.Stops row) ∨ ∃ row ∈ rows.filter tree.keeps, StopsInTurn row rest := by
        simp only [StopsInTurn, List.mem_filter, and_or_left, exists_or, and_assoc]
      have joined :
          (rows.filter tree.keeps).filter (fun row => rest.all fun tree => tree.keeps row) =
            rows.filter fun row => (tree :: rest).all fun tree => tree.keeps row := by
        rw [List.filter_filter]
        simp only [List.all_cons, Bool.and_comm]
      rw [joined] at others
      rw [inTurn, List.map_cons]
      by_cases firstStops : ∃ row ∈ rows, tree.Stops row
      · rw [runFrom_cons_of_error (first.stops firstStops)]
        exact ⟨fun _ => rfl, fun quiet => absurd (.inl firstStops) quiet⟩
      · rcases first.reaches firstStops with ⟨notes, ran⟩
        rw [runFrom_cons_of_ok ran, or_iff_right firstStops]
        refine ⟨fun stops => ?_, fun quiet => ?_⟩
        · rw [others.stops stops]
          rfl
        · rcases others.reaches quiet with ⟨more, restRan⟩
          exact ⟨notes ++ more, by rw [restRan]; rfl⟩

/-- A conjunction stops wherever its parts do in turn. -/
theorem StopsInTurn.conjunction
    {parts : List Condition} {row : Row} (stops : StopsInTurn row parts) :
    (conjunction parts).Stops row := by
  rw [stops_iff_eval_eq_error, eval_conjunction]
  refine decideBy_parts_eq_error_iff.2 ?_
  induction parts with
  | nil => exact stops.elim
  | cons first rest later =>
      rcases stops with stops | ⟨keeps, stops⟩
      · exact ⟨[], first, rest, rfl, stops, List.forall_mem_nil _⟩
      · rcases later stops with ⟨before, part, after, rfl, partStops, undecided⟩
        refine ⟨first :: before, part, after, rfl, partStops, List.forall_mem_cons.2 ⟨?_, undecided⟩⟩
        exact ⟨some true, keeps_iff.1 keeps, by decide⟩

/-- Joined conditions stop only where one of them does. -/
theorem exists_part_stops
    {parts : List Condition} {row : Row}
    (stops : (conjunction parts).Stops row ∨ (disjunction parts).Stops row) :
    ∃ part ∈ parts, part.Stops row := by
  have some_part {deciding : Bool}
      (failed : Truth.decideBy deciding false (parts.map fun part => part.eval row) =
        .error .tooManyDigits) :
      ∃ part ∈ parts, part.Stops row := by
    rcases decideBy_parts_eq_error_iff.1 failed with ⟨before, part, after, rfl, partStops, _⟩
    exact ⟨part, by simp, partStops⟩
  rcases stops with stops | stops <;> rw [stops_iff_eval_eq_error] at stops
  · exact some_part (eval_conjunction parts row ▸ stops)
  · exact some_part (eval_disjunction parts row ▸ stops)

/-- In another order joined parts have the same truth or stop alike, unless only one of the orders stops. -/
theorem decideBy_parts_eq_iff_of_perm
    {deciding : Bool} {parts others : List Condition} (reordered : parts.Perm others) (row : Row)
    {tree other : Condition}
    (joined : tree.eval row = Truth.decideBy deciding false (parts.map fun part => part.eval row))
    (joinedOther :
      other.eval row = Truth.decideBy deciding false (others.map fun part => part.eval row)) :
    tree.eval row = other.eval row ↔ (tree.Stops row ↔ other.Stops row) := by
  rw [stops_iff_eval_eq_error, stops_iff_eval_eq_error]
  constructor
  · intro same
    rw [same]
  · intro alike
    cases found : tree.eval row with
    | error error => exact (alike.1 found).symm
    | ok result =>
        cases foundOther : other.eval row with
        | error error => cases found.symm.trans (alike.2 foundOther)
        | ok result' =>
            have same := Truth.decideBy_of_perm (reordered.map fun part => part.eval row)
              (joined ▸ found) (joinedOther ▸ foundOther)
            rw [same]

/-! ## Three-valued logic -/

/-- Three-valued logic, for some conditions on some rows: a conjunction filters like its parts one after the
other, and a disjunction keeps the rows that one of its parts keeps. The opposite of each has the truth of the
other one over the opposite parts, the unknown included, and an opposite taken twice is the condition itself.
The order of the parts plays no role. -/
structure ObeyLogic (parts : List Condition) (rows : List Row) : Prop where
  conjunction :
    ∀ groups, ∃ kept notes more,
      (conjunction parts).filterStep.run ⟨rows, groups⟩ = .ok (⟨kept, groups⟩, notes) ∧
        runFrom ⟨rows, groups⟩ (parts.map filterStep) = .ok (⟨kept, groups⟩, more)
  disjunction :
    ∀ groups, ∃ notes,
      (disjunction parts).filterStep.run ⟨rows, groups⟩ =
        .ok (⟨rows.filter fun row => parts.any fun part => part.keeps row, groups⟩, notes)
  negations :
    ∀ row ∈ rows,
      (negation (Condition.conjunction parts)).eval row =
          (Condition.disjunction (parts.map negation)).eval row ∧
        (negation (Condition.disjunction parts)).eval row =
          (Condition.conjunction (parts.map negation)).eval row ∧
        ∀ part ∈ parts, (negation (negation part)).eval row = part.eval row
  reordered :
    ∀ others, parts.Perm others → ∀ row ∈ rows,
      (Condition.conjunction parts).eval row = (Condition.conjunction others).eval row ∧
        (Condition.disjunction parts).eval row = (Condition.disjunction others).eval row

theorem eval_negation_negation (tree : Condition) (row : Row) :
    (negation (negation tree)).eval row = tree.eval row := by
  rw [eval_negation, eval_negation]
  cases tree.eval row with
  | error error => rfl
  | ok truth => exact congrArg Except.ok (Truth.negate_involutive truth)

theorem eval_negation_conjunction (parts : List Condition) (row : Row) :
    (negation (conjunction parts)).eval row = (disjunction (parts.map negation)).eval row := by
  rw [eval_negation, eval_conjunction, eval_disjunction, eval_map_negation]
  exact Truth.map_negate_decideBy false false _

theorem eval_negation_disjunction (parts : List Condition) (row : Row) :
    (negation (disjunction parts)).eval row = (conjunction (parts.map negation)).eval row := by
  rw [eval_negation, eval_disjunction, eval_conjunction, eval_map_negation]
  exact Truth.map_negate_decideBy true false _

theorem eval_conjunction_eq_iff_of_perm
    {parts others : List Condition} (reordered : parts.Perm others) (row : Row) :
    (conjunction parts).eval row = (conjunction others).eval row ↔
      ((conjunction parts).Stops row ↔ (conjunction others).Stops row) :=
  decideBy_parts_eq_iff_of_perm reordered row (eval_conjunction parts row) (eval_conjunction others row)

theorem eval_disjunction_eq_iff_of_perm
    {parts others : List Condition} (reordered : parts.Perm others) (row : Row) :
    (disjunction parts).eval row = (disjunction others).eval row ↔
      ((disjunction parts).Stops row ↔ (disjunction others).Stops row) :=
  decideBy_parts_eq_iff_of_perm reordered row (eval_disjunction parts row) (eval_disjunction others row)

theorem run_conjunction_gives (parts : List Condition) (rows : List Row) (groups : Option (List Group)) :
    ((conjunction parts).filterStep.run ⟨rows, groups⟩).Gives
      ⟨rows.filter fun row => parts.all fun part => part.keeps row, groups⟩
      (∃ row ∈ rows, (conjunction parts).Stops row) :=
  funext (keeps_conjunction parts) ▸ (conjunction parts).run_filterStep rows groups

/-- Conditions of which none stops on a row obey the logic. -/
theorem obeyLogic_of_ends
    {parts : List Condition} {rows : List Row} (ends : ∀ row ∈ rows, ∀ part ∈ parts, ¬ part.Stops row) :
    ObeyLogic parts rows := by
  have conjunctionEnds : ∀ row ∈ rows, ¬ (Condition.conjunction parts).Stops row := by
    intro row rowMember stops
    rcases exists_part_stops (.inl stops) with ⟨part, member, partStops⟩
    exact ends row rowMember part member partStops
  have disjunctionEnds : ∀ row ∈ rows, ¬ (Condition.disjunction parts).Stops row := by
    intro row rowMember stops
    rcases exists_part_stops (.inr stops) with ⟨part, member, partStops⟩
    exact ends row rowMember part member partStops
  refine ⟨fun groups => ?_, fun groups => ?_, fun row _ => ?_, fun others reordered row member => ?_⟩
  · rcases (run_conjunction_gives parts rows groups).reaches (by simpa using conjunctionEnds) with
      ⟨notes, ran⟩
    have inTurn : ¬ ∃ row ∈ rows, StopsInTurn row parts := fun ⟨row, member, stops⟩ =>
      conjunctionEnds row member stops.conjunction
    rcases (runFrom_filterSteps parts rows groups).reaches inTurn with ⟨more, ranEach⟩
    exact ⟨_, notes, more, ran, ranEach⟩
  · rcases ((Condition.disjunction parts).run_filterStep rows groups).reaches
      (by simpa using disjunctionEnds) with ⟨notes, ran⟩
    rw [List.filter_congr fun row member => keeps_disjunction (disjunctionEnds row member)] at ran
    exact ⟨notes, ran⟩
  · exact ⟨eval_negation_conjunction parts row, eval_negation_disjunction parts row,
      fun part _ => eval_negation_negation part row⟩
  · have othersEnd : ∀ part ∈ others, ¬ part.Stops row := fun part partMember =>
      ends row member part (reordered.mem_iff.2 partMember)
    constructor
    · refine (eval_conjunction_eq_iff_of_perm reordered row).2
        (iff_of_false (conjunctionEnds row member) fun stops => ?_)
      rcases exists_part_stops (.inl stops) with ⟨part, partMember, partStops⟩
      exact othersEnd part partMember partStops
    · refine (eval_disjunction_eq_iff_of_perm reordered row).2
        (iff_of_false (disjunctionEnds row member) fun stops => ?_)
      rcases exists_part_stops (.inr stops) with ⟨part, partMember, partStops⟩
      exact othersEnd part partMember partStops

/--
Filters obey three-valued logic on rows on which none of the conditions stops. The laws of negation hold on
all rows, and what else the node of joined conditions holds never plays a role. A conjunction filters
like its parts one after the other exactly if it stops only where they do; a disjunction that does not stop
on a row keeps it exactly if one of its parts does; and in another order joined parts have another outcome
only where one of the orders stops and the other does not.
-/
theorem filters_obey_three_valued_logic (parts : List Condition) :
    (∀ rows, (∀ row ∈ rows, ∀ part ∈ parts, ¬ part.Stops row) → ObeyLogic parts rows) ∧
    (∀ (tree : Condition) rows groups,
      (tree.filterStep.run ⟨rows, groups⟩).Gives ⟨rows.filter tree.keeps, groups⟩
        (∃ row ∈ rows, tree.Stops row)) ∧
    (∀ rows groups,
      ((conjunction parts).filterStep.run ⟨rows, groups⟩).map Prod.fst =
          (runFrom ⟨rows, groups⟩ (parts.map filterStep)).map Prod.fst ↔
        ((∃ row ∈ rows, (conjunction parts).Stops row) → ∃ row ∈ rows, StopsInTurn row parts)) ∧
    (∀ row, ¬ (disjunction parts).Stops row →
      (disjunction parts).keeps row = parts.any fun part => part.keeps row) ∧
    (∀ row,
      (negation (conjunction parts)).eval row = (disjunction (parts.map negation)).eval row ∧
        (negation (disjunction parts)).eval row = (conjunction (parts.map negation)).eval row ∧
        ∀ tree : Condition, (negation (negation tree)).eval row = tree.eval row) ∧
    (∀ others, parts.Perm others → ∀ row,
      ((conjunction parts).eval row = (conjunction others).eval row ↔
          ((conjunction parts).Stops row ↔ (conjunction others).Stops row)) ∧
        ((disjunction parts).eval row = (disjunction others).eval row ↔
          ((disjunction parts).Stops row ↔ (disjunction others).Stops row))) ∧
    ∀ tree : Condition, tree.op ∈ logicalOps → tree.parts = parts → ∀ row,
      tree.eval row = (node tree.op none none (some parts)).eval row := by
  refine ⟨fun _ => obeyLogic_of_ends, run_filterStep, fun rows groups => ?_,
    fun _ => keeps_disjunction, fun row => ?_, fun others reordered row => ?_, ?_⟩
  · have inTurn : (∃ row ∈ rows, StopsInTurn row parts) →
        ∃ row ∈ rows, (conjunction parts).Stops row :=
      fun ⟨row, member, stops⟩ => ⟨row, member, stops.conjunction⟩
    rw [(run_conjunction_gives parts rows groups).same_iff (runFrom_filterSteps parts rows groups)]
    exact ⟨Iff.mp, fun alike => ⟨alike, inTurn⟩⟩
  · exact ⟨eval_negation_conjunction parts row, eval_negation_disjunction parts row,
      fun tree => eval_negation_negation tree row⟩
  · exact ⟨eval_conjunction_eq_iff_of_perm reordered row, eval_disjunction_eq_iff_of_perm reordered row⟩
  · rintro tree logical rfl row
    exact eval_eq_of_parts logical row

/-- Of two rows with the same name, the one without a stock is unknown to be stocked, and so are both
opposites. A filter by both conditions drops it like a filter by the first one; a node that also has
operands is read without them, and its parts may stand in the opposite order. -/
theorem filters_obey_three_valued_logic_unknown_stock :
    let stocked := node "gt" (some (.obj [("field", .str "stock")])) (some (.ofInt 0)) none
    let named := node "eq" (some (.obj [("field", .str "name")])) (some (.str "a")) none
    let unknown : Row := [("name", .str "a"), ("stock", .null)]
    let known : Row := [("name", .str "a"), ("stock", .ofInt 3)]
    let written := node "and" (some .null) none (some [stocked, named])
    (∀ row ∈ [unknown, known], ∀ part ∈ [stocked, named], ¬ part.Stops row) ∧
      [stocked, named].Perm [named, stocked] ∧ written.op ∈ logicalOps ∧
      written.parts = [stocked, named] ∧
      written.eval unknown = (conjunction [named, stocked]).eval unknown ∧
      (negation (conjunction [stocked, named])).eval unknown = .ok none ∧
      (disjunction [negation stocked, negation named]).eval unknown = .ok none ∧
      ¬ (disjunction [stocked, named]).Stops unknown ∧
      (disjunction [stocked, named]).keeps unknown = true ∧
      ∃ notes more,
        (conjunction [stocked, named]).filterStep.run ⟨[unknown, known], none⟩ =
            .ok (⟨[known], none⟩, notes) ∧
          runFrom ⟨[unknown, known], none⟩ [stocked.filterStep, named.filterStep] =
            .ok (⟨[known], none⟩, more) := by
  intro stocked named unknown known written
  rcases filters_obey_three_valued_logic [stocked, named] with
    ⟨obey, _, _, either, opposites, _, others⟩
  -- A comparison makes no text, so none of the conditions stops.
  have ends : ∀ row ∈ [unknown, known], ∀ part ∈ [stocked, named], ¬ part.Stops row := by
    simp only [List.forall_mem_cons, stops_iff_eval_eq_error]
    subst stocked named unknown known
    simp [eval, Test.ofName, Test.all, Test.name, Comparison.all, Comparison.name, Test.apply]
  have logical : written.op ∈ logicalOps := by decide
  have unknownTruth : (negation (conjunction [stocked, named])).eval unknown = .ok none := by
    subst stocked named unknown
    rfl
  have eitherEnds : ¬ (disjunction [stocked, named]).Stops unknown := by
    intro stops
    rcases exists_part_stops (.inr stops) with ⟨part, member, partStops⟩
    exact ends unknown List.mem_cons_self part member partStops
  have namedKeeps : ([stocked, named].any fun part => part.keeps unknown) = true := by
    subst stocked named unknown
    decide +kernel
  have laws := obey [unknown, known] ends
  have swapped : [stocked, named].Perm [named, stocked] := .swap _ _ _
  rcases laws.conjunction none with ⟨kept, notes, more, ran, ranEach⟩
  have evaluated : ((conjunction [stocked, named]).filterStep.run ⟨[unknown, known], none⟩).map Prod.fst =
      .ok ⟨[known], none⟩ := by
    subst stocked named unknown known
    rfl
  rw [ran] at evaluated
  cases evaluated
  exact ⟨ends, swapped, logical, rfl,
    (others written logical rfl unknown).trans
      (laws.reordered _ swapped unknown List.mem_cons_self).1,
    unknownTruth, (opposites unknown).1.symm.trans unknownTruth, eitherEnds,
    (either unknown eitherEnds).trans namedKeeps, notes, more, ran, ranEach⟩

/-- A row with an unknown stock and a count of too many digits. A filter that the stock is positive and that
the count contains a one stops there, although a filter by the stock alone drops the row. -/
theorem filters_disobey_three_valued_logic_count :
    let stocked := node "gt" (some (.obj [("field", .str "stock")])) (some (.ofInt 0)) none
    let counted := node "contains" (some (.obj [("field", .str "count")])) (some (.str "1")) none
    let row : Row := [("stock", .null), ("count", .num (.int (10 ^ 6000 : Nat)))]
    ¬ ObeyLogic [stocked, counted] [row] ∧
      (conjunction [stocked, counted]).filterStep.run ⟨[row], none⟩ = .error (.text .tooManyDigits) ∧
      ∃ notes, runFrom ⟨[row], none⟩ [stocked.filterStep, counted.filterStep] =
        .ok (⟨[], none⟩, notes) := by
  intro stocked counted row
  have beyond : ¬ (Value.num (.int (10 ^ 6000 : Nat))).Writable := by
    rw [Value.writable_num_iff]
    exact Decimal.not_writable_pow (by decide)
  have stockUnknown : stocked.eval row = .ok none := by
    subst stocked row
    rfl
  have lacks : counted.Stops row := by
    refine .test ⟨.num (.int (10 ^ 6000 : Nat)), .str "1", ?_, rfl, nofun, nofun, nofun, fun both =>
      beyond both.1⟩
    subst row
    rfl
  have stops : (conjunction [stocked, counted]).Stops row := by
    rw [stops_iff_eval_eq_error, eval_conjunction]
    exact decideBy_parts_eq_error_iff.2 ⟨[stocked], counted, [], rfl, lacks,
      List.forall_mem_singleton.2 ⟨none, stockUnknown, nofun⟩⟩
  -- The unknown stock is not kept, so that no row is left for the count.
  have notKept : stocked.keeps row = false := by rw [keeps, stockUnknown]
  have inTurn : ¬ ∃ other ∈ [row], StopsInTurn other [stocked, counted] := by
    simp [StopsInTurn, notKept, stops_iff_eval_eq_error, stockUnknown]
  have failed := (run_conjunction_gives [stocked, counted] [row] none).stops
    ⟨row, List.mem_singleton.2 rfl, stops⟩
  refine ⟨fun obey => ?_, failed, ?_⟩
  · rcases obey.conjunction none with ⟨_, _, _, ran, _⟩
    cases failed.symm.trans ran
  · rcases (runFrom_filterSteps [stocked, counted] [row] none).reaches inTurn with ⟨notes, ran⟩
    refine ⟨notes, ran.trans ?_⟩
    rw [List.filter_cons, List.all_cons, notKept]
    rfl

end Condition

end RowPlan
