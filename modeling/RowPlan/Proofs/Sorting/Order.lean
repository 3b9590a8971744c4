import Mathlib.Data.String.Basic
import RowPlan.Execution.Order

/-!
# The order of sort keys

Sort keys are compared by kind and then by value. Apart from NaN they are in a weak order, so that a
key below another one is below or above every third key. NaN has no place among the numbers: it is
neither below nor above any of them, and it is below texts and truth values as all numbers are.
-/

namespace RowPlan

namespace Place

theorem lt_asymm {a b : Place} (below : a.lt b = true) : b.lt a = false := by
  cases a <;> cases b <;> simp_all [lt]
  omega

/-- Places are in a weak order. -/
theorem not_lt_trans
    {a b c : Place} (first : b.lt a = false) (second : c.lt b = false) :
    c.lt a = false := by
  cases a <;> cases b <;> cases c <;> simp_all [lt]
  omega

end Place

namespace SortKey

/-- A sort key is below another one: a number below a text, a text below a truth value, a number
below a greater one, a text below one with greater codes, and false below true. -/
inductive Below : SortKey → SortKey → Prop where
  | numberText (n : Number) (s : String) : Below (number n) (text s)
  | numberTruth (n : Number) (b : Bool) : Below (number n) (truth b)
  | textTruth (s : String) (b : Bool) : Below (text s) (truth b)
  | numbers {m n : Number} {p q : Place} :
      m.place? = some p → n.place? = some q → p.lt q = true → Below (number m) (number n)
  | texts {s t : String} : s < t → Below (text s) (text t)
  | truths : Below (truth false) (truth true)

theorem lt_iff_below (a b : SortKey) : a.lt b = true ↔ a.Below b := by
  constructor
  · intro below
    cases a with
    | number m =>
        cases b with
        | number n =>
            simp only [lt, Number.lt] at below
            split at below
            · rename_i p q left right
              exact .numbers left right below
            · cases below
        | text s => exact .numberText m s
        | truth b => exact .numberTruth m b
    | text s =>
        cases b with
        | number n => cases below
        | text t => exact .texts (of_decide_eq_true below)
        | truth b => exact .textTruth s b
    | truth a =>
        cases b with
        | truth b =>
            cases a <;> cases b <;> cases below
            exact .truths
        | _ => cases below
  · rintro (_ | _ | _ | ⟨left, right, below⟩ | below | _)
    · rfl
    · rfl
    · rfl
    · simp only [lt, Number.lt, left, right, below]
    · exact decide_eq_true below
    · rfl

theorem isNaN_iff (key : SortKey) : key.isNaN = true ↔ ∃ n, key = number n ∧ n.place? = none := by
  cases key <;> simp [isNaN]

theorem lt_asymm {a b : SortKey} (below : a.lt b = true) : b.lt a = false := by
  rw [lt_iff_below] at below
  rw [Bool.eq_false_iff, Ne, lt_iff_below]
  rintro above
  cases below with
  | numbers left right below =>
      cases above with
      | numbers left' right' above =>
          cases left.symm.trans right'
          cases right.symm.trans left'
          rw [Place.lt_asymm below] at above
          cases above
  | texts below =>
      cases above with
      | texts above => exact absurd above (not_lt.2 below.le)
  | _ => cases above

theorem lt_irrefl (a : SortKey) : a.lt a = false := by
  by_contra below
  rw [Bool.not_eq_false] at below
  rw [lt_asymm below] at below
  cases below

theorem exists_place {n : Number} (known : (number n).isNaN = false) :
    ∃ p, n.place? = some p := by
  cases place : n.place? with
  | none => simp [isNaN, place] at known
  | some p => exact ⟨p, rfl⟩

/-- Sort keys are in a weak order around every key that is not NaN. -/
theorem not_lt_trans
    {a b c : SortKey} (known : b.isNaN = false) (first : b.lt a = false) (second : c.lt b = false) :
    c.lt a = false := by
  cases b with
  | number m =>
      rcases exists_place known with ⟨p, place⟩
      cases a with
      | number l =>
          cases c with
          | number n =>
              simp only [lt, Number.lt, place] at first second ⊢
              cases left : l.place? with
              | none => cases n.place? <;> rfl
              | some q =>
                  cases right : n.place? with
                  | none => rfl
                  | some r =>
                      simp only [left, right] at first second ⊢
                      exact Place.not_lt_trans first second
          | _ => rfl
      | _ => cases first
  | text s =>
      cases c with
      | number n => cases second
      | text u =>
          cases a with
          | text t =>
              simp only [lt, decide_eq_false_iff_not, not_lt] at first second ⊢
              exact first.trans second
          | truth b => cases first
          | number n => rfl
      | truth b =>
          cases a with
          | truth c => cases first
          | _ => rfl
  | truth b =>
      cases c with
      | truth c =>
          cases a with
          | truth a => revert first second; cases a <;> cases b <;> cases c <;> decide
          | _ => rfl
      | _ => cases second

/-- A key below another one is below every key that is not below that one. -/
theorem lt_of_lt_of_not_lt
    {a b c : SortKey} (known : c.isNaN = false) (below : a.lt b = true) (least : c.lt b = false) :
    a.lt c = true := by
  by_contra notBelow
  rw [Bool.not_eq_true] at notBelow
  rw [not_lt_trans known least notBelow] at below
  cases below

/-- A key that is not below another one is above every key that is below that one. -/
theorem lt_of_not_lt_of_lt
    {a b c : SortKey} (known : a.isNaN = false) (least : b.lt a = false) (below : b.lt c = true) :
    a.lt c = true := by
  by_contra notBelow
  rw [Bool.not_eq_true] at notBelow
  rw [not_lt_trans known notBelow least] at below
  cases below

/-! ## NaN -/

theorem not_lt_nan {a b : SortKey} (nan : b.isNaN = true) : a.lt b = false := by
  rcases (isNaN_iff b).1 nan with ⟨n, rfl, place⟩
  cases a with
  | number m =>
      simp only [lt, Number.lt, place]
      cases m.place? <;> rfl
  | _ => rfl

/-- NaN is below what is no number. -/
theorem nan_lt_iff {a b : SortKey} (nan : a.isNaN = true) :
    a.lt b = true ↔ ∀ n, b ≠ number n := by
  rcases (isNaN_iff a).1 nan with ⟨m, rfl, place⟩
  cases b <;> simp [lt, Number.lt, place]

theorem nan_not_lt_number {a : SortKey} (nan : a.isNaN = true) (n : Number) :
    a.lt (number n) = false :=
  Bool.eq_false_iff.2 fun below => (nan_lt_iff nan).1 below n rfl

theorem exists_number_of_lt {a : SortKey} {n : Number} (below : a.lt (number n) = true) :
    ∃ m, a = number m ∧ m.lt n = true := by
  cases a with
  | number m => exact ⟨m, rfl, below⟩
  | _ => cases below

theorem exists_number_of_not_nan_lt
    {a b : SortKey} (nan : a.isNaN = true) (notBelow : a.lt b = false) :
    ∃ n, b = number n := by
  by_contra none
  rw [(nan_lt_iff nan).2 (not_exists.1 none)] at notBelow
  cases notBelow

/-! ## Equal and misplaced keys -/

/-- Keys of which neither is below the other. -/
def tied (a b : SortKey) : Bool := !a.lt b && !b.lt a

theorem tied_iff (a b : SortKey) : a.tied b = true ↔ a.lt b = false ∧ b.lt a = false := by
  simp [tied]

/-- A key that must not come before another one, upwards or downwards. -/
def Wrong (descending : Bool) (first second : SortKey) : Prop :=
  if descending then first.Below second else second.Below first

theorem not_wrong_upwards_iff (first second : SortKey) :
    ¬ Wrong false first second ↔ second.lt first = false := by
  rw [Wrong, if_neg Bool.false_ne_true, ← lt_iff_below, Bool.not_eq_true]

theorem wrong_downwards_iff (first second : SortKey) :
    Wrong true first second ↔ Wrong false second first := by
  simp [Wrong]

theorem tied_of_not_wrong
    {descending : Bool} {a b : SortKey} (first : ¬ Wrong descending a b)
    (second : ¬ Wrong descending b a) :
    a.tied b = true := by
  cases descending with
  | false =>
      rw [not_wrong_upwards_iff] at first second
      exact (tied_iff a b).2 ⟨second, first⟩
  | true =>
      rw [wrong_downwards_iff, not_wrong_upwards_iff] at first second
      exact (tied_iff a b).2 ⟨first, second⟩

end SortKey

end RowPlan
