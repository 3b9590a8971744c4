import RowPlan.Execution.Metric
import RowPlan.Expr.Compare
import RowPlan.Proofs.Number.Finite

/-!
# Where arithmetic has no result

Arithmetic on two numbers has no result exactly when a divisor is zero or the operation leaves the
range of the doubles, and what it gives otherwise is finite. Integers are combined exactly, so only
their quotients can leave the range; all other pairs are combined through their nearest doubles, which
an integer may lack.

Sums and means are folds of the same operations. They are null exactly where a step of the fold
overflows, and a mean also where there is nothing to take it of.
-/

namespace RowPlan

namespace Number

/-- Two integers, which are combined exactly. -/
def BothIntegers (a b : Number) : Prop := ∃ m n, a = int m ∧ b = int n

theorem isZero_int_iff (n : Int) : (int n).isZero = true ↔ n = 0 := by
  unfold isZero same place?
  simp only [beq_iff_eq, Option.some.injEq, Place.finite.injEq, Int.shiftLeft_eq]
  omega

end Number

namespace Arithmetic

/-- What an operator does to doubles. -/
def onDoubles : Arithmetic → Float → Float → Float
  | add => fun x y => x + y
  | sub => fun x y => x - y
  | mul => fun x y => x * y
  | div => fun x y => x / y
  | mod => Decimal.floorMod

/-- Whether an operator divides by its right operand. -/
def Divides (op : Arithmetic) : Prop := op = div ∨ op = mod

/-- Numbers on which an operator leaves the range of the doubles. -/
inductive Overflows : Arithmetic → Number → Number → Prop where
  /-- An integer that has no nearest double is combined with a double. -/
  | operand {op a b}
      (mixed : ¬ Number.BothIntegers a b) (beyond : a.toFloat? = none ∨ b.toFloat? = none) :
      Overflows op a b
  /-- The operation on the doubles is infinite or undefined. -/
  | result {op a b x y}
      (mixed : ¬ Number.BothIntegers a b) (left : a.toFloat? = some x) (right : b.toFloat? = some y)
      (beyond : Decimal.isFinite (op.onDoubles x y) = false) :
      Overflows op a b
  /-- The quotient of two integers has no nearest double. -/
  | quotient {m n}
      (beyond :
        Decimal.nearest? (decide (m < 0) != decide (n < 0)) m.natAbs n.natAbs = none) :
      Overflows div (.int m) (.int n)

/-- Combining the nearest doubles of two numbers has no result exactly when it overflows. -/
theorem onDoubles_eq_none_iff
    (op : Arithmetic) {a b : Number} (mixed : ¬ Number.BothIntegers a b) :
    (match a.toFloat?, b.toFloat? with
      | some x, some y => Number.finite? (.float (op.onDoubles x y))
      | _, _ => none) = none ↔ op.Overflows a b := by
  constructor
  · intro noResult
    split at noResult
    · rename_i x y left right
      refine .result mixed left right ?_
      rw [Number.finite?] at noResult
      split at noResult
      · cases noResult
      · rename_i notFinite
        exact Bool.eq_false_iff.2 notFinite
    · rename_i noPair
      refine .operand mixed ?_
      cases left : a.toFloat? with
      | none => exact .inl rfl
      | some x =>
          cases right : b.toFloat? with
          | none => exact .inr rfl
          | some y => exact absurd right (noPair x y left)
  · rintro (⟨_, beyond⟩ | ⟨_, left, right, beyond⟩ | _)
    · split
      · rename_i x y left right
        rcases beyond with none | none
        · cases left.symm.trans none
        · cases right.symm.trans none
      · rfl
    · rw [left, right]
      dsimp only
      rw [Number.finite?]
      rw [if_neg]
      exact Bool.eq_false_iff.1 beyond
    · exact absurd ⟨_, _, rfl, rfl⟩ mixed

theorem combine?_of_mixed
    {exact_ : Int → Int → Number} {rounded : Float → Float → Float} {a b : Number}
    (mixed : ¬ Number.BothIntegers a b) :
    Number.combine? exact_ rounded a b =
      match a.toFloat?, b.toFloat? with
      | some x, some y => Number.finite? (.float (rounded x y))
      | _, _ => none := by
  unfold Number.combine?
  split
  · exact absurd ⟨_, _, rfl, rfl⟩ mixed
  · rfl

/-- An operation that is exact on integers has no result exactly when it overflows. -/
theorem combine?_eq_none_iff
    (op : Arithmetic) (notQuotient : op ≠ div) (exact_ : Int → Int → Int) (a b : Number) :
    Number.combine? (fun m n => .int (exact_ m n)) op.onDoubles a b = none ↔ op.Overflows a b := by
  by_cases integers : Number.BothIntegers a b
  · have exactResult :
        Number.combine? (fun m n => .int (exact_ m n)) op.onDoubles a b ≠ none := by
      rcases integers with ⟨m, n, rfl, rfl⟩
      simp [Number.combine?]
    refine iff_of_false exactResult ?_
    rintro (⟨mixed, _⟩ | ⟨mixed, _, _, _⟩ | _)
    · exact mixed integers
    · exact mixed integers
    · exact notQuotient rfl
  · rw [combine?_of_mixed integers]
    exact onDoubles_eq_none_iff op integers

theorem overflows_int_iff (m n : Int) :
    div.Overflows (.int m) (.int n) ↔
      Decimal.nearest? (decide (m < 0) != decide (n < 0)) m.natAbs n.natAbs = none := by
  constructor
  · intro overflow
    generalize left : Number.int m = a at overflow
    generalize right : Number.int n = b at overflow
    cases overflow with
    | operand mixed _ => exact absurd ⟨m, n, left.symm, right.symm⟩ mixed
    | result mixed _ _ _ => exact absurd ⟨m, n, left.symm, right.symm⟩ mixed
    | quotient beyond =>
        cases left
        cases right
        exact beyond
  · exact .quotient

/-- A quotient is missing exactly when the divisor is zero or the division overflows. -/
theorem div?_eq_none_iff (a b : Number) :
    a.div? b = none ↔ b.isZero = true ∨ div.Overflows a b := by
  unfold Number.div?
  split
  · rename_i zero
    simp [zero]
  · rename_i notZero
    simp only [notZero, Bool.false_eq_true, false_or]
    split
    · rename_i m n
      rw [Option.map_eq_none_iff]
      exact (overflows_int_iff m n).symm
    · rename_i notIntegers
      exact onDoubles_eq_none_iff div fun ⟨m, n, left, right⟩ => notIntegers m n left right

/-- Two numbers have no result exactly when they are divided by zero or the operation overflows. -/
theorem onNumbers_eq_none_iff (op : Arithmetic) (a b : Number) :
    op.onNumbers a b = none ↔ (op.Divides ∧ b.isZero = true) ∨ op.Overflows a b := by
  cases op with
  | add =>
      simp only [Divides, reduceCtorEq, or_self, false_and, false_or]
      exact combine?_eq_none_iff add (by decide) (fun m n => m + n) a b
  | sub =>
      simp only [Divides, reduceCtorEq, or_self, false_and, false_or]
      exact combine?_eq_none_iff sub (by decide) (fun m n => m - n) a b
  | mul =>
      simp only [Divides, reduceCtorEq, or_self, false_and, false_or]
      exact combine?_eq_none_iff mul (by decide) (fun m n => m * n) a b
  | div =>
      simp only [Divides, true_or, true_and]
      exact div?_eq_none_iff a b
  | mod =>
      simp only [Divides, or_true, true_and, onNumbers, Number.mod?]
      split
      · rename_i zero
        simp [zero]
      · rename_i notZero
        simp only [notZero, Bool.false_eq_true, false_or]
        exact combine?_eq_none_iff mod (by decide) (fun m n => m.fmod n) a b

theorem isFinite_of_onNumbers
    {op : Arithmetic} {a b c : Number} (result : op.onNumbers a b = some c) :
    c.isFinite = true := by
  cases op with
  | add => exact Number.isFinite_of_combine? result
  | sub => exact Number.isFinite_of_combine? result
  | mul => exact Number.isFinite_of_combine? result
  | div => exact Number.isFinite_of_div? result
  | mod => exact Number.isFinite_of_mod? result

/-- A value that is null or a finite number. -/
def FiniteOrNull (value : Value) : Prop :=
  value = .null ∨ ∃ number, value = .num number ∧ number.isFinite = true

/-- Computing with two values gives null or a finite number, whatever the values are. -/
theorem apply_finiteOrNull (op : Arithmetic) (left right : Option Value) :
    FiniteOrNull (op.apply left right) := by
  rw [apply]
  split
  · rename_i a b _ _
    cases result : op.onNumbers a b with
    | none => exact .inl rfl
    | some c => exact .inr ⟨c, rfl, isFinite_of_onNumbers result⟩
  · exact .inl rfl

/-- Computing with two values that stand for numbers gives null exactly when a divisor is zero or
the operation overflows. -/
theorem apply_eq_null_iff
    (op : Arithmetic) {left right : Option Value} {a b : Number}
    (leftNumber : left.bind Value.toNumber? = some a)
    (rightNumber : right.bind Value.toNumber? = some b) :
    op.apply left right = .null ↔ (op.Divides ∧ b.isZero = true) ∨ op.Overflows a b := by
  rw [← onNumbers_eq_none_iff, apply, leftNumber, rightNumber]
  dsimp only
  cases op.onNumbers a b <;> simp

end Arithmetic

namespace Metric

open Arithmetic (FiniteOrNull)

/-! ## Sums and means -/

/-- Some numbers whose sum overflows at one of them. -/
def SumOverflows (items : List Number) : Prop :=
  ∃ before item after total,
    items = before ++ item :: after ∧ sum? before = some total ∧
      Arithmetic.add.Overflows total item

/-- A fold has no result exactly when one of its steps has none. -/
theorem foldlM_eq_none_iff {α β : Type}
    (f : β → α → Option β) (items : List α) (start : β) :
    items.foldlM f start = none ↔
      ∃ before item after reached,
        items = before ++ item :: after ∧ before.foldlM f start = some reached ∧
          f reached item = none := by
  constructor
  · intro noResult
    induction items generalizing start with
    | nil => cases noResult
    | cons first rest later =>
        rw [List.foldlM_cons] at noResult
        cases stepped : f start first with
        | none => exact ⟨[], first, rest, start, rfl, rfl, stepped⟩
        | some next =>
            rw [stepped] at noResult
            rcases later next noResult with ⟨before, item, after, reached, rfl, folded, stuck⟩
            refine ⟨first :: before, item, after, reached, rfl, ?_, stuck⟩
            rw [List.foldlM_cons, stepped]
            exact folded
  · rintro ⟨before, item, after, reached, rfl, folded, stuck⟩
    rw [List.foldlM_append, folded]
    change List.foldlM f reached (item :: after) = none
    rw [List.foldlM_cons, stuck]
    rfl

theorem sum?_eq_none_iff (items : List Number) : sum? items = none ↔ SumOverflows items := by
  have addition (total item : Number) :
      total.add? item = none ↔ Arithmetic.add.Overflows total item := by
    have exactly := Arithmetic.onNumbers_eq_none_iff .add total item
    simp only [Arithmetic.Divides, reduceCtorEq, or_self, false_and, false_or] at exactly
    exact exactly
  rw [sum?]
  rw [foldlM_eq_none_iff]
  simp only [addition]
  exact Iff.rfl

theorem isFinite_of_sum?
    {items : List Number} {total : Number} (summed : sum? items = some total) :
    total.isFinite = true := by
  have fold (start : Number) (startFinite : start.isFinite = true) :
      items.foldlM (fun total item => total.add? item) start = some total →
        total.isFinite = true := by
    intro folded
    clear summed
    induction items generalizing start with
    | nil =>
        cases folded
        exact startFinite
    | cons item rest later =>
        rw [List.foldlM_cons] at folded
        rcases Option.bind_eq_some_iff.1 folded with ⟨next, added, folded⟩
        exact later next (Number.isFinite_of_combine? added) folded
  exact fold (.int 0) rfl summed

/-- A mean of something is missing exactly when its sum or its division overflows. -/
theorem mean?_eq_none_iff
    {items : List Number} (nonempty : items ≠ []) :
    mean? items = none ↔
      SumOverflows items ∨
        ∃ total, sum? items = some total ∧
          Arithmetic.div.Overflows total (.int items.length) := by
  have divisor : (Number.int items.length).isZero ≠ true := by
    rw [Ne, Number.isZero_int_iff]
    simpa using nonempty
  rw [mean?]
  rw [← sum?_eq_none_iff]
  cases sum? items with
  | none => simp
  | some total => simp [Arithmetic.div?_eq_none_iff, divisor]

theorem isFinite_of_mean?
    {items : List Number} {mean : Number} (averaged : mean? items = some mean) :
    mean.isFinite = true := by
  rcases Option.bind_eq_some_iff.1 averaged with ⟨total, _, divided⟩
  exact Number.isFinite_of_div? divided

theorem orNull_eq_null_iff (number : Option Number) : orNull number = .null ↔ number = none := by
  cases number <;> simp [orNull]

theorem orNull_finiteOrNull
    {number : Option Number} (finite : ∀ result, number = some result → result.isFinite = true) :
    FiniteOrNull (orNull number) := by
  cases number with
  | none => exact .inl rfl
  | some result => exact .inr ⟨result, rfl, finite result rfl⟩

/-- A sum is null or a finite number, and null exactly when it overflows. -/
theorem compute_sum (values : List (Option Value)) (count : Nat) :
    ∃ value, compute "sum" values count = .ok value ∧ FiniteOrNull value ∧
      (value = .null ↔ SumOverflows (numbers values)) := by
  refine ⟨orNull (sum? (numbers values)), rfl, ?_, ?_⟩
  · exact orNull_finiteOrNull fun result summed => isFinite_of_sum? summed
  · rw [orNull_eq_null_iff, sum?_eq_none_iff]

/-- A mean is null or a finite number, and null exactly when there is nothing to take it of or it
overflows. -/
theorem compute_avg (values : List (Option Value)) (count : Nat) :
    ∃ value, compute "avg" values count = .ok value ∧ FiniteOrNull value ∧
      (value = .null ↔
        numbers values = [] ∨ SumOverflows (numbers values) ∨
          ∃ total, sum? (numbers values) = some total ∧
            Arithmetic.div.Overflows total (.int (numbers values).length)) := by
  have result :
      compute "avg" values count =
        .ok (orNull (if (numbers values).isEmpty then none else mean? (numbers values))) := rfl
  refine ⟨_, result, ?_, ?_⟩
  · apply orNull_finiteOrNull
    intro mean averaged
    split at averaged
    · cases averaged
    · exact isFinite_of_mean? averaged
  · rw [orNull_eq_null_iff]
    by_cases empty : numbers values = []
    · simp [empty]
    · rw [if_neg (by simpa using empty), mean?_eq_none_iff empty]
      simp only [empty, false_or]

end Metric

end RowPlan
