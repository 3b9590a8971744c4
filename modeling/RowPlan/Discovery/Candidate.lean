import RowPlan.Pointer
import RowPlan.Shape

/-!
# Candidates

A candidate is an array in a document that may hold the records, described by its pointer, its
length, and what its first items look like.
-/

namespace RowPlan

/-- An array that may hold the records of a document. -/
structure Candidate where
  path : String
  arrayLength : Int
  objectFieldCount : Int
  hasObjectItems : Bool
  depth : Int
deriving DecidableEq

namespace Candidate

/-- How many items of an array are looked at. -/
def sampleSize : Nat := 3

/-- The members of an item that is an object. -/
def members? : Value → Option Row
  | .obj members => some members
  | _ => none

/-- The objects among the first items of an array. -/
def sampleObjects (items : List Value) : List Row := (items.take sampleSize).filterMap members?

/-- The largest of some numbers, zero if there are none. -/
def largest (numbers : List Nat) : Nat := numbers.foldl max 0

/-- The candidate for an array at a pointer. -/
def ofArray (path : String) (items : List Value) : Candidate where
  path := path
  arrayLength := items.length
  objectFieldCount := largest ((sampleObjects items).map List.length)
  hasObjectItems := !(sampleObjects items).isEmpty
  depth := (Pointer.split path).length

mutual

/-- The candidates in a value that is reached by the given keys. An array is one, and is not looked
into; an object is looked into if it is no deeper than `maxDepth`. -/
def below (maxDepth : Int) (keys : List String) : Value → List Candidate
  | .arr items => [ofArray (Pointer.join keys) items]
  | .obj members =>
    if maxDepth < keys.length then [] else belowMembers maxDepth keys members
  | _ => []

/-- The candidates in the members of an object that is reached by the given keys. -/
def belowMembers (maxDepth : Int) (keys : List String) : List (String × Value) → List Candidate
  | [] => []
  | (key, value) :: rest =>
    below maxDepth (keys ++ [key]) value ++ belowMembers maxDepth keys rest

end

/-- The candidates of a document, in its order. -/
def all (document : Value) (maxDepth : Int) : List Candidate := below maxDepth [] document

/-- Read a candidate. A score may be given with it, and is not used. -/
def read : Value → Shape.Checked Candidate :=
  Shape.record "RecordPathCandidate" fun object =>
    ((((((Shape.member object ["path"] Shape.text).map fun path length fields hasObjects depth _ =>
      (⟨path, length, fields, hasObjects, depth⟩ : Candidate)).both
      (Shape.member object ["arrayLength", "array_length"] Shape.integer)).both
      (Shape.member object ["objectFieldCount", "object_field_count"] Shape.integer)).both
      (Shape.member object ["hasObjectItems", "has_object_items"] Shape.boolean)).both
      (Shape.member object ["depth"] Shape.integer)).both
      (Shape.memberOr object ["score"] Shape.double 0)

end Candidate

end RowPlan
