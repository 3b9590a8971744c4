import RowPlan.Sorting.Runs
import RowPlan.Value.Basic

/-!
# The order of sort values

Numbers come before texts and texts before truth values. Numbers are ordered by value, texts by the
codes of their characters, and false comes before true. Other values have no place in the order.

A list is sorted by its keys stably, also when it is sorted downwards. Only NaN breaks the order, being
neither below nor above any number: what becomes of a list that holds it depends on which items are
compared.
-/

namespace RowPlan

/-- A value that can be sorted by. -/
inductive SortKey where
  | number (n : Number)
  | text (s : String)
  | truth (b : Bool)

namespace SortKey

/-- The sort key of a value that may be absent. -/
def ofValue? : Option Value → Option SortKey
  | some (.num n) => some (number n)
  | some (.str s) => some (text s)
  | some (.bool b) => some (truth b)
  | _ => none

/-- Strict order of sort keys. -/
def lt : SortKey → SortKey → Bool
  | number a, number b => a.lt b
  | number _, _ => true
  | text a, text b => a < b
  | text _, truth _ => true
  | truth a, truth b => !a && b
  | _, _ => false

/-- Whether a sort key is NaN. -/
def isNaN : SortKey → Bool
  | number n => n.place?.isNone
  | _ => false

end SortKey

namespace Sorting

variable {α : Type}

/-- Sort pairs by their keys, stably and upwards. It is the positions in the list that are sorted. -/
def upwards (pairs : List (SortKey × α)) : List (SortKey × α) :=
  let items := pairs.toArray
  let order := sort (fun i j : Fin items.size => items[i].1.lt items[j].1) (List.finRange items.size)
  order.map fun i => items[i]

/-- Sort pairs by their keys, stably, upwards or downwards. -/
def byKey (descending : Bool) (pairs : List (SortKey × α)) : List (SortKey × α) :=
  if descending then (upwards pairs.reverse).reverse else upwards pairs

end Sorting

end RowPlan
