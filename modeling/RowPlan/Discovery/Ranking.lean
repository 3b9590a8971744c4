import RowPlan.Discovery.Candidate
import RowPlan.Text.Folding

/-!
# Ranking candidates

A candidate is scored by its size, by what its items look like, by its name, and by the words of the
goal. Scores are counted in halves of a point, so that they are exact.
-/

namespace RowPlan

namespace Goal

/-- Words that say nothing about where the records are. -/
def stopWords : List String :=
  ["the", "and", "for", "from", "with", "into", "that", "this",
    "each", "all", "any", "csv", "json", "create", "make", "get",
    "extract", "transform", "convert", "array", "object", "field"]

/-- The fewest characters of a significant word. -/
def significantLength : Nat := 3

/-- Whether a word may say where the records are. -/
def isSignificant (word : String) : Bool :=
  significantLength ≤ word.length && !stopWords.contains word

/-- The significant words of a goal in lower case, each once. -/
def words (goal : String) : List String :=
  let runs := Text.runsWhere Text.isAlphanumeric (Text.lower goal).toList
  ((runs.map String.ofList).filter isSignificant).eraseDups

end Goal

/-- Names under which documents usually keep their records. -/
def wellKnownNames : List String :=
  ["items", "results", "data", "records", "rows", "entries",
    "products", "sales", "orders", "customers", "users",
    "forecast", "values", "list", "elements", "nodes"]

namespace Candidate

/-- Halves of a point that a rule gives. -/
def points (applies : Bool) (halves : Int) : Int := if applies then halves else 0

/-- The part of the score that comes from the length. -/
def lengthScore (candidate : Candidate) : Int :=
  points (0 < candidate.arrayLength) (2 * min candidate.arrayLength 20)
    + points (3 ≤ candidate.arrayLength) 20

/-- The part of the score that comes from the items. -/
def itemScore (candidate : Candidate) : Int :=
  if candidate.hasObjectItems then 100 + min candidate.objectFieldCount 10
  else points (0 < candidate.arrayLength) (-40)

/-- The keys that lead to a candidate, in lower case. -/
def lowerKeys (candidate : Candidate) : List String :=
  (Pointer.split candidate.path).map Text.lower

/-- The part of the score that comes from the words of the goal. -/
def goalScore (candidate : Candidate) (words : List String) : Int :=
  let name := candidate.lowerKeys.getLast?.getD ""
  let ancestors := candidate.lowerKeys.dropLast
  let isRelated (word : String) : Bool := Text.contains name word || Text.contains word name
  (if name.isEmpty then 0
    else points (words.contains name) 50 + points (words.any isRelated) 20)
    + points (ancestors.any words.contains) 20

/-- The score of a candidate in halves of a point. -/
def score (candidate : Candidate) (words : List String) : Int :=
  let name := candidate.lowerKeys.getLast?.getD ""
  20 + candidate.lengthScore + candidate.itemScore
    + points (wellKnownNames.contains name) 60 + candidate.goalScore words
    - points (1 < candidate.depth) (10 * (candidate.depth - 1))

/-- Whether a candidate may be chosen: the whole document, an array with objects among its first
items, or an empty one. -/
def isEligible (candidate : Candidate) : Bool :=
  candidate.path == Pointer.root || candidate.hasObjectItems || candidate.arrayLength == 0

end Candidate

/-- A candidate with its score in halves of a point. -/
structure ScoredCandidate where
  candidate : Candidate
  score : Int
deriving DecidableEq

namespace ScoredCandidate

/-- The score in points; one beyond the largest double has none. -/
def points? (halves : Int) : Option Number := (Number.int halves).div? (.int 2)

/-- Whether a candidate does not rank behind another one: by score, then by depth. -/
def precedes (first second : ScoredCandidate) : Bool :=
  second.score < first.score
    || (first.score == second.score && decide (first.candidate.depth ≤ second.candidate.depth))

/-- Candidates from the best to the worst; those that rank alike keep their order. -/
def rank (candidates : List ScoredCandidate) : List ScoredCandidate :=
  candidates.mergeSort precedes

end ScoredCandidate

end RowPlan
