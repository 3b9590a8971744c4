import RowPlan.Plan.Check

/-!
# Errors of proposals

A proposal is a plan that somebody else makes for a goal. Whatever is wrong with one falls into one
of five categories, which decide whether it is worth asking again.
-/

namespace RowPlan

/-- What kind of error a proposal has. -/
inductive ProposalCategory where
  | emptyResponse
  | notJson
  | contractInvalid
  | recordPathNotFound
  | providerError
deriving DecidableEq

namespace ProposalCategory

/-- The wire form of a category. -/
def name : ProposalCategory → String
  | emptyResponse => "empty_response"
  | notJson => "not_json"
  | contractInvalid => "contract_invalid"
  | recordPathNotFound => "record_path_not_found"
  | providerError => "provider_error"

/-- All categories. -/
def all : List ProposalCategory :=
  [emptyResponse, notJson, contractInvalid, recordPathNotFound, providerError]

/-- The category with a wire form. -/
def ofName? (wire : String) : Option ProposalCategory := all.find? (·.name == wire)

/-- Whether another attempt may help. -/
def isRetryable : ProposalCategory → Bool
  | emptyResponse => false
  | notJson => true
  | contractInvalid => true
  | recordPathNotFound => false
  | providerError => true

end ProposalCategory

/-- What goes wrong on the side of a provider: a failure that knows its category, a plan that it
found unreadable or refused, or any other failure, with or without a name. -/
inductive ProviderFailure where
  | categorised (category : ProposalCategory) (message : String)
  | unreadable (message : String)
  | refused (problems : List String)
  | plain (message : String)
  | named (name message : String)

namespace ProviderFailure

/-- The wording of a provider failure. -/
def message : ProviderFailure → String
  | categorised _ message => message
  | unreadable message => message
  | refused problems => refusalMessage problems
  | plain message => message
  | named name message => name ++ ": " ++ message

/-- The category of a provider failure. -/
def category : ProviderFailure → ProposalCategory
  | categorised category _ => category
  | unreadable _ => .notJson
  | refused _ => .contractInvalid
  | plain _ => .providerError
  | named _ _ => .providerError

end ProviderFailure

/-- What is wrong with a proposal. -/
inductive ProposalError where
  | empty
  | unreadable (attempts length : Nat)
  | refused (problems : List PlanProblem)
  | numeral (error : NumeralError)
  | text (error : TextError)
  | unknownPath (path : String) (known : List String)
  | provider (failure : ProviderFailure)

namespace ProposalError

/-- The error of a proposal that cannot be loaded. -/
def ofLoadError : LoadError → ProposalError
  | .refused problems => refused problems
  | .numeral error => numeral error
  | .text error => text error

/-- Texts in order, each once. -/
def sorted (texts : List String) : List String :=
  texts.eraseDups.mergeSort fun first second => decide (first ≤ second)

/-- The wording of a proposal error. -/
def message : ProposalError → String
  | empty => "Completion returned an empty response"
  | unreadable attempts length =>
    s!"Failed to parse JSON after {attempts} strategies (length {length})"
  | refused problems => refusalMessage (problems.map PlanProblem.message)
  | numeral error => error.message
  | text error => error.message
  | unknownPath path known =>
    s!"Record path '{path}' is not one of: " ++ ", ".intercalate (sorted known)
  | provider failure => failure.message

/-- The category of a proposal error. -/
def category : ProposalError → ProposalCategory
  | empty => .emptyResponse
  | unreadable _ _ => .notJson
  | refused _ => .contractInvalid
  | numeral _ => .providerError
  | text _ => .providerError
  | unknownPath _ _ => .recordPathNotFound
  | provider failure => failure.category

/-- The wording by which an error is reported back to a provider. -/
def report : ProposalError → String
  | numeral error => "ValueError: " ++ error.message
  | text error => "ValueError: " ++ error.message
  | error => error.message

end ProposalError

end RowPlan
