import RowPlan.Discovery.Ranking
import RowPlan.Records

/-!
# Finding the records

Discovery ranks the arrays of a document and chooses the best one that is eligible.
-/

namespace RowPlan

/-- Why no records were found. -/
inductive DiscoveryError where
  | noContainer
  | noArrays
  | noObjects
deriving DecidableEq

namespace DiscoveryError

/-- The wording of a discovery error. -/
def message : DiscoveryError → String
  | noContainer => "NoRecordsetFound: Input is not an object or array"
  | noArrays => "NoRecordsetFound: No arrays found in input"
  | noObjects => "NoRecordsetFound: Found arrays but none contain objects"

/-- The reason of every discovery error. -/
def reason (_ : DiscoveryError) : Reason := .noRecordsetFound

end DiscoveryError

/-- The ranked candidates of a document, and the chosen one. -/
structure Discovery where
  candidates : List ScoredCandidate
  chosen : Except DiscoveryError ScoredCandidate

namespace Discovery

/-- Whether a value can contain arrays. -/
def isContainer : Value → Bool
  | .arr _ => true
  | .obj _ => true
  | _ => false

/-- The scored candidates of a document, from the best to the worst. -/
def ranked (document : Value) (goal : String) (maxDepth : Int) : List ScoredCandidate :=
  let words := Goal.words goal
  ScoredCandidate.rank ((Candidate.all document maxDepth).map fun candidate =>
    ⟨candidate, candidate.score words⟩)

/-- Choose the first eligible candidate. -/
def choose (document : Value) (candidates : List ScoredCandidate) :
    Except DiscoveryError ScoredCandidate :=
  if !isContainer document then .error .noContainer
  else if candidates.isEmpty then .error .noArrays
  else
    match candidates.find? (·.candidate.isEligible) with
    | some best => .ok best
    | none => .error .noObjects

/-- Look for the records of a document. -/
def run (document : Value) (goal : String) (maxDepth : Int) : Discovery :=
  let candidates := ranked document goal maxDepth
  ⟨candidates, choose document candidates⟩

/-- The pointer to the chosen records. -/
def recordPath? (discovery : Discovery) : Option String :=
  discovery.chosen.toOption.map (·.candidate.path)

/-- The candidates without their scores. -/
def plainCandidates (discovery : Discovery) : List Candidate :=
  discovery.candidates.map (·.candidate)

/-- The pointers of the candidates. -/
def paths (discovery : Discovery) : List String := discovery.candidates.map (·.candidate.path)

end Discovery

namespace ScoredCandidate

/-- The wire form of a score. -/
def scoreValue (halves : Int) : Value := ((points? halves).map Value.num).getD .null

/-- The wire form of a candidate. -/
def toValue (scored : ScoredCandidate) : Value :=
  .obj [("path", .str scored.candidate.path), ("arrayLength", .ofInt scored.candidate.arrayLength),
    ("objectFieldCount", .ofInt scored.candidate.objectFieldCount),
    ("hasObjectItems", .bool scored.candidate.hasObjectItems),
    ("depth", .ofInt scored.candidate.depth), ("score", scoreValue scored.score)]

end ScoredCandidate

/-- The wire form of a discovery; what there is not is left out. -/
def Discovery.toValue (discovery : Discovery) : Value :=
  let candidates := ("candidates", Value.arr (discovery.candidates.map ScoredCandidate.toValue))
  match discovery.chosen with
  | .ok best =>
    .obj [("success", .bool true), ("recordPath", .str best.candidate.path),
      ("score", ScoredCandidate.scoreValue best.score), candidates]
  | .error error =>
    .obj [("success", .bool false), ("score", ScoredCandidate.scoreValue 0), candidates,
      ("error", .str error.message), ("reason", .str error.reason.name)]

end RowPlan
