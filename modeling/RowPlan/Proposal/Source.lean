import RowPlan.Proposal.Payload
import RowPlan.Proposal.Prompt

/-!
# Sources of plans

A source offers a plan for a request, or none, or fails. One kind of source always offers the same
plan. The other kind asks a provider for a text, and asks again as long as attempts are left and the
error is one that another attempt may mend, telling the provider what was wrong. Nothing carries over
from one request to the next. A request for which no prompt can be written fails.
-/

namespace RowPlan.Proposal

/-- What a provider replies: a text, possibly none, or a failure. -/
inductive Reply where
  | text (text : Option String)
  | failed (failure : ProviderFailure)

/-- The reply of a provider that has nothing more to say. -/
def Reply.exhausted : Reply := .failed (.named "RuntimeError" "no more replies")

/-- A plan has to be for one of the candidates, if there are any. -/
def checkPath (candidates : List Candidate) (plan : Plan) : Except ProposalError Plan :=
  let known := candidates.map (·.path)
  if known.isEmpty || known.contains plan.recordPath then .ok plan
  else .error (.unknownPath plan.recordPath known)

/-- The plan in a reply. -/
def judge (request : Request) : Reply → Except ProposalError Plan
  | .text text => (loadText text request.defaultPath?).bind (checkPath request.candidates)
  | .failed failure => .error (.provider failure)

/-- What came of a request: the plan, the prompts that were sent, and the last error. -/
structure Outcome where
  plan : Option Plan
  prompts : List String
  lastError : Option ProposalError

/-- Ask up to `attempts` times, the provider giving the replies in order; `lastError` is the error of
the attempt before. -/
def ask (request : Request) (lastError : Option ProposalError) :
    Nat → List Reply → Except TextError Outcome
  | 0, _ => .ok ⟨none, [], lastError⟩
  | attempts + 1, replies => do
    let sent ← prompt request (lastError.map ProposalError.report)
    match judge request (replies.headD .exhausted) with
    | .ok plan => .ok ⟨some plan, [sent], lastError⟩
    | .error error =>
      if error.category.isRetryable then do
        let outcome ← ask request (some error) attempts replies.tail
        .ok { outcome with prompts := sent :: outcome.prompts }
      else .ok ⟨none, [sent], some error⟩

/-- The wording for a limit of attempts that allows none. -/
def noAttemptsMessage : String := "max_attempts must be >= 1"

/-- A source that asks a provider: how often it asks, and the last error of its last request. -/
structure Completion where
  maxAttempts : Nat
  lastError : Option ProposalError

/-- A source that has not been asked yet; it has to be allowed at least one attempt. -/
def Completion.ofLimit? (maxAttempts : Int) : Option Completion :=
  if maxAttempts < 1 then none else some ⟨maxAttempts.toNat, none⟩

/-- Ask for a plan, given what the provider replies. A request that fails leaves no last error. -/
def Completion.request (source : Completion) (request : Request) (replies : List Reply) :
    Except TextError Outcome × Completion :=
  match ask request none source.maxAttempts replies with
  | .ok outcome => (.ok outcome, { source with lastError := outcome.lastError })
  | .error error => (.error error, { source with lastError := none })

/-- What a source offers: a plan, nothing, a failure that leaves room for another plan, or one that does
not: a numeral that cannot be read, or a text that cannot be written. -/
inductive Offer where
  | plan (plan : Plan)
  | nothing
  | failed (message : String)
  | unreadable (error : NumeralError)
  | unwritable (error : TextError)

/-- The offer of a source that got a plan or an error. -/
def Offer.ofExcept : Except ProposalError Plan → Offer
  | .ok found => .plan found
  | .error (.numeral error) => .unreadable error
  | .error (.text error) => .unwritable error
  | .error error => .failed error.message

/-- A source of plans. -/
abbrev Source := Request → Offer

/-- The source that always offers the same plan. -/
def Source.fixed (plan : Value) : Source := fun request =>
  .ofExcept (loadAny plan request.defaultPath?)

/-- The source that asks a provider with the given replies. -/
def Source.completion (source : Completion) (replies : List Reply) : Source := fun request =>
  match (source.request request replies).1 with
  | .error error => .unwritable error
  | .ok outcome =>
    match outcome.plan with
    | some plan => .plan plan
    | none => .nothing

/-- The source that offers a plan without checking the plan rules. -/
def Source.unchecked (plan : Value) : Source := fun _ =>
  .ofExcept ((Plan.parse plan).mapError .ofLoadError)

end RowPlan.Proposal
