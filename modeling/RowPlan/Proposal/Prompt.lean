import RowPlan.Discovery.Candidate
import RowPlan.Json.Writer
import RowPlan.Proposal.Basic

/-!
# Prompts

A prompt asks for a plan: it explains the form of plans, and states the goal, where the records may
be, a sample record, and why the reply before was rejected. There is no prompt if the sample holds an
integer with too many digits.
-/

namespace RowPlan.Proposal

/-- What a plan is asked for. -/
structure Request where
  goal : Option String
  sample : Row
  candidates : List Candidate

/-- The pointer that a plan gets if it does not name one: that of the first candidate. -/
def Request.defaultPath? (request : Request) : Option String :=
  request.candidates.head?.map (·.path)

/-- The lines that explain the form of plans. -/
def instructionLines : List String :=
  [
    "You generate JSON transformation plans.",
    "Reply with a single JSON object and nothing else.",
    "",
    "A plan has:",
    "- \"planVersion\": always \"1.0\"",
    "- \"source\": \x7b\"recordPath\": JSON pointer to the record array, \"/\" for a root array\x7d",
    "- \"steps\": operations applied in order",
    "",
    "Operations:",
    "- \x7b\"op\": \"select\", \"fields\": [\x7b\"from\": \"/field\", \"as\": \"name\"\x7d]\x7d",
    "- \x7b\"op\": \"filter\", \"where\": \x7b\"op\": \"gte\", \"left\": \x7b\"field\": \"/price\"\x7d, \"right\": 20\x7d\x7d",
    "  condition ops: eq, neq, gt, gte, lt, lte, contains, in, and, or, not",
    "  \"where\" may also be an expression string such as \"price >= 20 and status == 'open'\"",
    "- \x7b\"op\": \"compute\", \"compute\": [\x7b\"as\": \"total\", \"expr\": \"price * qty\"\x7d]\x7d",
    "- \x7b\"op\": \"mapValue\", \"map\": [\x7b\"from\": \"/code\", \"as\": \"label\", \"mapping\": \x7b\"A\": \"Active\"\x7d, \"default\": \"Unknown\"\x7d]\x7d",
    "- \x7b\"op\": \"sort\", \"by\": \"/date\", \"dir\": \"asc\"\x7d",
    "- \x7b\"op\": \"groupBy\", \"keys\": [\"/category\"]\x7d must be followed by an aggregate step",
    "- \x7b\"op\": \"aggregate\", \"metrics\": [\x7b\"as\": \"total\", \"fn\": \"sum\", \"field\": \"/amount\"\x7d]\x7d",
    "  functions: sum, count, avg, min, max",
    "- \x7b\"op\": \"limit\", \"n\": 10\x7d",
    "",
    "Field paths are relative to one record. Only use fields that exist in the sample."]

/-- The text that explains the form of plans. -/
def instructions : String := "\n".intercalate instructionLines

/-- How many candidates a prompt lists. -/
def listedCandidates : Nat := 5

/-- One candidate in the list of a prompt. -/
def candidateText (candidate : Candidate) : Except TextError String := do
  let length ← Decimal.writeInteger candidate.arrayLength
  .ok s!"{candidate.path} ({length} items)"

/-- The line that lists the candidates, if there are any. -/
def candidateLines (candidates : List Candidate) : Except TextError (List String) :=
  if candidates.isEmpty then .ok []
  else do
    let texts ← (candidates.take listedCandidates).mapM candidateText
    .ok ["Candidate record paths: " ++ ", ".intercalate texts]

/-- The line that says why the reply before was rejected. -/
def rejectionLines (rejection : Option String) : List String :=
  match rejection with
  | none => []
  | some message =>
    if message.isEmpty then []
    else [s!"Your previous reply was rejected: {message}. Return a corrected plan."]

/-- The lines that say what is asked for. -/
def requestLines (request : Request) : Except TextError (List String) := do
  let candidates ← candidateLines request.candidates
  let sample ← Json.write (.obj request.sample)
  .ok (["", "Goal: " ++ request.goal.getD "None"] ++ candidates ++ ["Sample record: " ++ sample])

/-- The prompt for a request. -/
def prompt (request : Request) (rejection : Option String) : Except TextError String := do
  let lines ← requestLines request
  .ok ("\n".intercalate (instructions :: lines ++ rejectionLines rejection))

end RowPlan.Proposal
