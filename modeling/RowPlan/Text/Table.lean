/-!
# Compact tables over characters

Properties of Unicode characters are kept as texts of hexadecimal numbers. A class of characters is
a list of run lengths, alternately outside and inside the class; a map is a list of runs that shift
characters by a fixed distance, together with the characters whose image is longer.
-/

namespace RowPlan.Text

/-- The value of a hexadecimal digit. -/
def hexValue? (c : Char) : Option Nat :=
  if '0' ≤ c ∧ c ≤ '9' then some (c.toNat - '0'.toNat)
  else if 'a' ≤ c ∧ c ≤ 'f' then some (c.toNat - 'a'.toNat + 10)
  else if 'A' ≤ c ∧ c ≤ 'F' then some (c.toNat - 'A'.toNat + 10)
  else none

/-- Hexadecimal words of a text, in order; `current` is the word being read, if any. -/
def hexWordsFrom (current : Option Nat) : List Char → List Nat
  | [] => current.toList
  | c :: rest =>
    match hexValue? c with
    | some digit => hexWordsFrom (some (current.getD 0 * 16 + digit)) rest
    | none => current.toList ++ hexWordsFrom none rest

/-- The hexadecimal numbers of a text, whatever separates them. -/
def hexWords (text : String) : List Nat := hexWordsFrom none text.toList

/-- Membership in a class given by run lengths, alternately outside and inside it. -/
def inRuns : List Nat → Nat → Bool
  | outside :: inside :: rest, code =>
    if code < outside then false
    else if code < outside + inside then true
    else inRuns rest (code - outside - inside)
  | _, _ => false

/-- Cut a text at every separator. -/
def splitAtChar (separator : Char) : List Char → List (List Char)
  | [] => [[]]
  | c :: rest =>
    if c = separator then [] :: splitAtChar separator rest
    else
      match splitAtChar separator rest with
      | piece :: pieces => (c :: piece) :: pieces
      | [] => [[c]]

/-- The groups of hexadecimal numbers that semicolons separate. -/
def hexGroups (text : String) : List (List Nat) :=
  (splitAtChar ';' text.toList).map (hexWordsFrom none)

/-- Characters `first`, `first + stride`, … , `count` of them, with images at the same distances
from `image`. -/
structure ShiftRun where
  first : Nat
  count : Nat
  stride : Nat
  image : Nat

/-- Read the runs of a table; each group gives first character, count, stride and image. -/
def ShiftRun.readAll (text : String) : List ShiftRun :=
  (hexGroups text).filterMap fun
    | [first, count, stride, image] => some ⟨first, count, stride, image⟩
    | _ => none

/-- The image of a character code in one run. -/
def ShiftRun.image? (run : ShiftRun) (code : Nat) : Option Nat :=
  if run.first ≤ code ∧ (code - run.first) % run.stride = 0 ∧
      (code - run.first) / run.stride < run.count then
    some (run.image + (code - run.first))
  else none

/-- The image of a character under a table of runs; characters in no run stay. -/
def ShiftRun.apply (runs : List ShiftRun) (c : Char) : Char :=
  match runs.findSome? (·.image? c.toNat) with
  | some code => Char.ofNat code
  | none => c

/-- Read the longer images of a table; each group gives a character and its image. -/
def readExpansions (text : String) : List (Nat × List Char) :=
  (hexGroups text).filterMap fun
    | code :: image => some (code, image.map Char.ofNat)
    | [] => none

end RowPlan.Text
