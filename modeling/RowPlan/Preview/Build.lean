import RowPlan.Output.Csv
import RowPlan.Preview.Basic
import RowPlan.Settings

/-!
# Making previews

The plan of a preview is the one given explicitly; else the one that a source offers, if it points at
an array; else one made from a template. A plan from a source that cannot be run gives way to the
template.
-/

namespace RowPlan.Preview

/-- The pointer to the records as it was asked for: none if it is empty, and `/` in place of any
other pointer to the whole document. -/
def Request.hint? (request : Request) : Option String :=
  match request.recordPath with
  | none => none
  | some path =>
    if path.isEmpty then none else if Pointer.isRoot path then some Pointer.root else some path

/-- Load an explicit plan. One that is built already says itself where its records are. -/
def Given.load (given : Given) (defaultPath : Option String) : Except ProposalError Plan :=
  match given with
  | .written value => Proposal.loadAny value defaultPath
  | .built plan => plan.validate.mapError .ofLoadError

/-- The error of an explicit plan that was not accepted. A numeral that cannot be read, or a text that
cannot be written, is no such error. -/
def refusal : ProposalError → Except StepError Failure
  | .numeral error => .error (.expression (.numeral error))
  | .text error => .error (.text error)
  | .refused problems => .ok (.planRefused problems)
  | error => .ok (.planUnreadable error)

/-- The explicit plan and the pointer to the records, or why there is none. -/
def settle (request : Request) (discovery : Discovery) :
    Except StepError (Except Failure (Option Plan × String)) :=
  match request.plan, request.hint? with
  | some given, hint =>
    match given.load (hint.orElse fun _ => discovery.recordPath?) with
    | .ok plan => .ok (.ok (some plan, plan.recordPath))
    | .error error => (refusal error).map .error
  | none, some path => .ok (.ok (none, path))
  | none, none =>
    match discovery.chosen with
    | .ok best => .ok (.ok (none, best.candidate.path))
    | .error error => .ok (.error (.noRecords error))

/-- Whether a pointer names an array. -/
def pointsAtArray (document : Value) (path : String) : Bool :=
  match Pointer.resolve document path with
  | some (.arr _) => true
  | _ => false

/-- The warning about a source that failed. -/
def sourceWarning (message : String) : String := s!"Plan source failed: {message}"

/-- The warning about a plan from a source that does not point at an array. -/
def discardWarning (path : String) : String :=
  s!"Discarded plan from source: record path '{path}' does not point at an array"

/-- The warning about a plan from a source that could not be run. -/
def fallbackWarning (message : String) : String :=
  s!"Plan from source failed ({message}); using template instead"

/-- The plan of a source, if it can be used, and what there is to say about it. -/
def fromSource (document : Value) (offer : Proposal.Offer) :
    Except StepError (Option Plan × List String) :=
  match offer with
  | .plan plan =>
    if pointsAtArray document plan.recordPath then .ok (some plan, [])
    else .ok (none, [discardWarning plan.recordPath])
  | .nothing => .ok (none, [])
  | .failed message => .ok (none, [sourceWarning message])
  | .unreadable error => .error (.expression (.numeral error))
  | .unwritable error => .error (.text error)

/-- The plan made from a template for the records at a pointer. -/
def fromTemplate (goal recordPath : String) (sample : Row) : Chosen :=
  let found := Template.run goal recordPath sample
  ⟨found.plan, .template found.kind, recordPath⟩

/-- What a source is asked. -/
def Request.asked (request : Request) (discovery : Discovery) (sample : Row) : Proposal.Request :=
  ⟨some (request.goal.getD ""), sample, discovery.plainCandidates⟩

/-- The plan to try: the explicit one, else the one of the source if it can be used, else
`fallback`. -/
def choose (request : Request) (discovery : Discovery) (explicit : Option Plan)
    (recordPath : String) (sample : Row) (fallback : Chosen) :
    Except StepError (Chosen × List String) :=
  match explicit, request.source with
  | some plan, _ => .ok (⟨plan, .explicit, recordPath⟩, [])
  | none, none => .ok (fallback, [])
  | none, some source => do
    let (offered, notes) ←
      fromSource request.document (source (request.asked discovery sample))
    match offered with
    | some plan => .ok (⟨plan, .source, plan.recordPath⟩, notes)
    | none => .ok (fallback, notes)

/-- Run a plan; one from a source that cannot be run gives way to `fallback`. -/
def runChosen (document : Value) (maxRows : Int) (chosen fallback : Chosen) :
    Except StepError (Chosen × List String × Execution) := do
  match chosen.origin, ← chosen.plan.execute document maxRows with
  | .source, .failed failure =>
    let execution ← fallback.plan.execute document maxRows
    .ok (fallback, [fallbackWarning failure.message], execution)
  | _, execution => .ok (chosen, [], execution)

/-- The result of a run. -/
def conclude (settings : Settings) (chosen : Chosen) (warnings : List String) :
    Execution → Except StepError (Except Failure Success)
  | .done table => do
    let csv ← (Csv.preview settings.previewRows table.rows).mapError .text
    .ok (.ok ⟨chosen, table.rows, csv, warnings ++ table.warnings⟩)
  | .failed failure => .ok (.error (.notExecuted chosen warnings failure))

/-- Choose a plan for the records at a pointer, and run it. -/
def proceed (request : Request) (discovery : Discovery) (settings : Settings)
    (explicit : Option Plan) (recordPath : String) (sample : Row) :
    Except StepError (Except Failure Success) := do
  let fallback := fromTemplate (request.goal.getD "") recordPath sample
  let (chosen, notes) ← choose request discovery explicit recordPath sample fallback
  let (final, more, execution) ← runChosen request.document settings.maxRows chosen fallback
  conclude settings final (notes ++ more) execution

/-- Make the preview once the records have been looked for. -/
def build (request : Request) (discovery : Discovery) (settings : Settings) :
    Except StepError (Except Failure Success) := do
  match ← settle request discovery with
  | .error failure => .ok (.error failure)
  | .ok (explicit, recordPath) =>
    match Records.extract request.document recordPath with
    | .error error => .ok (.error (.badRecords recordPath error))
    | .ok records =>
      proceed request discovery settings explicit recordPath (Records.sample records.rows)

/-- Make a preview. An unreadable numeral in a plan, a plan that fails on its rows, and a value without a
text where one is needed stop it. -/
def run (request : Request) (settings : Settings) : Except StepError Preview := do
  let discovery :=
    Discovery.run request.document (request.goal.getD "") settings.discoveryMaxDepth
  .ok ⟨discovery, ← build request discovery settings⟩

end RowPlan.Preview
