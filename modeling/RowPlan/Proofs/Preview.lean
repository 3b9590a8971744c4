import RowPlan.Preview.Build
import RowPlan.Proofs.Discovery
import RowPlan.Proofs.Json.Documents
import RowPlan.Proofs.Output.CsvReading
import RowPlan.Proofs.Plan.Readable
import RowPlan.Proofs.Template

/-!
# Previews succeed once the records are found

A preview can go wrong before it has rows: an explicit plan is not accepted, no array of the document
holds records, or the pointer that was settled on names none. From there on no failure is left, whatever
the source of plans offers. A plan from a source that cannot be run gives way to one from a template, and
that one is valid and points at records that have been extracted already.

What is left is an integer with more digits than can be written. Where the plan that is run needs the text of
one, or a row that is shown holds one, there is no preview at all, although the plan is in order.

All this is about plans whose expressions can be read; a numeral that cannot be read stops a preview.
-/

namespace RowPlan

/-! ## What plans say before they are checked -/

namespace Proposal

/-- An offer of a source that a preview can look at: a readable plan, none, or a failure. -/
def Offer.Readable : Offer → Prop
  | .plan offered => offered.Readable
  | .nothing => True
  | .failed _ => True
  | .unreadable _ => False
  | .unwritable _ => False

/-- The value that a proposal is written as; a text is taken as a reply. -/
def written : Value → Except ProposalError Value
  | .str text => payload (some text)
  | value => .ok value

/-- Read a proposed plan without checking the plan rules. -/
def read (value : Value) (defaultPath : Option String) : Except ProposalError Plan :=
  (Plan.parse (withDefaultPath value defaultPath)).mapError .ofLoadError

theorem load_eq_bind (value : Value) (defaultPath : Option String) :
    load value defaultPath =
      (read value defaultPath >>= fun plan => plan.validate.mapError .ofLoadError) := by
  rw [load, Plan.load, read]
  cases Plan.parse (withDefaultPath value defaultPath) <;> rfl

theorem loadAny_eq_bind (value : Value) (defaultPath : Option String) :
    loadAny value defaultPath = (written value >>= fun value => load value defaultPath) := by
  cases value <;> rfl

theorem read_ne_numeral
    (value : Value) (defaultPath : Option String) (error : NumeralError) :
    read value defaultPath ≠ .error (.numeral error) := by
  rw [read, Plan.parse]
  rcases Plan.read (withDefaultPath value defaultPath) with error | plan
  · cases error <;> simp [Except.mapError, LoadError.ofReadError, ProposalError.ofLoadError]
  · simp [Except.mapError]

theorem payload_ne_numeral (reply : Option String) (error : NumeralError) :
    payload reply ≠ .error (.numeral error) := by
  simp only [payload]
  split
  · exact nofun
  · split <;> exact nofun

theorem written_ne_numeral (value : Value) (error : NumeralError) :
    written value ≠ .error (.numeral error) := by
  cases value with
  | str text => exact payload_ne_numeral (some text) error
  | _ => exact nofun

end Proposal

namespace Preview

namespace Given

/-- What an explicit plan says before the plan rules are checked. -/
def read (given : Given) (defaultPath : Option String) : Except ProposalError Plan :=
  match given with
  | .written value => Proposal.written value >>= fun value => Proposal.read value defaultPath
  | .built plan => .ok plan

theorem load_eq_bind (given : Given) (defaultPath : Option String) :
    given.load defaultPath =
      (given.read defaultPath >>= fun plan => plan.validate.mapError .ofLoadError) := by
  cases given with
  | built plan => rfl
  | written value =>
      simp only [load, read, Proposal.loadAny_eq_bind, Proposal.load_eq_bind, bind_assoc]

theorem valid_of_load
    {given : Given} {defaultPath : Option String} {plan : Plan}
    (loaded : given.load defaultPath = .ok plan) :
    plan.Valid := by
  rw [load_eq_bind] at loaded
  rcases Outcome.bind_eq_ok_iff.1 loaded with ⟨said, _, accepted⟩
  rw [Outcome.mapError_eq_ok_iff, Plan.validate_eq_ok_iff] at accepted
  exact accepted.1 ▸ accepted.2

theorem read_ne_numeral
    (given : Given) (defaultPath : Option String) (error : NumeralError) :
    given.read defaultPath ≠ .error (.numeral error) := by
  cases given with
  | built plan => exact nofun
  | written value =>
      intro failed
      rcases Outcome.bind_eq_error_iff.1 failed with unwritten | ⟨written, _, unread⟩
      · exact Proposal.written_ne_numeral value error unwritten
      · exact Proposal.read_ne_numeral written defaultPath error unread

/-- No numeral gets in the way of an explicit plan that is readable. -/
theorem load_ne_numeral
    {given : Given} {defaultPath : Option String}
    (readable : ∀ plan, given.read defaultPath = .ok plan → plan.Readable) (error : NumeralError) :
    given.load defaultPath ≠ .error (.numeral error) := by
  intro failed
  rw [load_eq_bind] at failed
  rcases Outcome.bind_eq_error_iff.1 failed with unread | ⟨plan, said, notValid⟩
  · exact given.read_ne_numeral defaultPath error unread
  · rcases (readable plan said).validate_cases with ⟨accepted, _⟩ | ⟨problems, refused⟩
    · rw [accepted] at notValid
      cases notValid
    · rw [refused] at notValid
      cases notValid

end Given

/-! ## Settling on a pointer -/

/-- The discovery that goes before a preview. -/
def Request.discovery (request : Request) (settings : Settings) : Discovery :=
  Discovery.run request.document (request.goal.getD "") settings.discoveryMaxDepth

/-- The pointer for an explicit plan that does not say where its records are. -/
def Request.defaultPath? (request : Request) (discovery : Discovery) : Option String :=
  request.hint?.orElse fun _ => discovery.recordPath?

/-- A request with readable plans only: the explicit one, and what its source offers when it is
asked. -/
structure Request.Readable (request : Request) (discovery : Discovery) : Prop where
  explicit : ∀ given plan, request.plan = some given →
    given.read (request.defaultPath? discovery) = .ok plan → plan.Readable
  source : ∀ source recordPath records, request.source = some source →
    settle request discovery = .ok (.ok (none, recordPath)) →
    Records.extract request.document recordPath = .ok records →
    (source (request.asked discovery (Records.sample records.rows))).Readable

/-- How a preview may fail: at its explicit plan, or at its records. -/
inductive FailsFor (request : Request) (discovery : Discovery) : Failure → Prop where
  | planRefused {given problems} :
      request.plan = some given →
      given.load (request.defaultPath? discovery) = .error (.refused problems) →
      FailsFor request discovery (.planRefused problems)
  | planUnreadable {given error} :
      request.plan = some given →
      given.load (request.defaultPath? discovery) = .error error →
      (∀ problems, error ≠ .refused problems) →
      FailsFor request discovery (.planUnreadable error)
  | noRecords {error} :
      request.plan = none → request.hint? = none → discovery.chosen = .error error →
      FailsFor request discovery (.noRecords error)
  | badRecords {explicit recordPath error} :
      settle request discovery = .ok (.ok (explicit, recordPath)) →
      Records.extract request.document recordPath = .error error →
      FailsFor request discovery (.badRecords recordPath error)

theorem FailsFor.code
    {request : Request} {discovery : Discovery} {failure : Failure}
    (fails : FailsFor request discovery failure) :
    failure.code = "PLAN_INVALID" ∨ failure.code = "PLAN_PARSE_ERROR" ∨
      failure.code = "RECORDPATH_NOT_FOUND" := by
  cases fails with
  | planRefused => exact .inl rfl
  | planUnreadable => exact .inr (.inl rfl)
  | noRecords => exact .inr (.inr rfl)
  | badRecords => exact .inr (.inr rfl)

/-- A pointer to settle on says something, and an explicit plan is valid and has it as its own. -/
structure Settled (explicit : Option Plan) (recordPath : String) : Prop where
  given : recordPath ≠ ""
  explicit : ∀ plan, explicit = some plan → plan.Valid ∧ plan.recordPath = recordPath

theorem Request.hint_ne_empty
    {request : Request} {path : String} (hinted : request.hint? = some path) :
    path ≠ "" := by
  simp only [hint?] at hinted
  split at hinted
  · cases hinted
  · split at hinted
    · cases hinted
    · rename_i nonempty
      split at hinted <;> cases hinted
      · decide
      · simpa using nonempty

/-- The failure for an explicit plan that is not accepted. -/
theorem refusal_failsFor
    {request : Request} {discovery : Discovery} {given : Given} {error : ProposalError}
    (explicit : request.plan = some given)
    (failed : given.load (request.defaultPath? discovery) = .error error) {failure : Failure}
    (refused : refusal error = .ok failure) :
    FailsFor request discovery failure := by
  cases error with
  | numeral error => cases refused
  | text error => cases refused
  | refused problems =>
      cases refused
      exact .planRefused explicit failed
  | _ =>
      cases refused
      exact .planUnreadable explicit failed nofun

theorem settle_of_plan
    {request : Request} {given : Given} (explicit : request.plan = some given)
    (discovery : Discovery) :
    settle request discovery =
      match given.load (request.defaultPath? discovery) with
      | .ok plan => .ok (.ok (some plan, plan.recordPath))
      | .error error => (refusal error).map .error := by
  rw [settle, explicit]
  rfl

/-- Without an explicit plan a hint goes before what discovery finds. -/
theorem settle_of_no_plan
    {request : Request} (noPlan : request.plan = none) (discovery : Discovery) :
    settle request discovery =
      match request.hint? with
      | some path => .ok (.ok (none, path))
      | none =>
        match discovery.chosen with
        | .ok best => .ok (.ok (none, best.candidate.path))
        | .error error => .ok (.error (.noRecords error)) := by
  rw [settle, noPlan]
  cases request.hint? <;> rfl

/-- An explicit plan has an operation that has to be quoted and has no text. -/
def Request.PlanLacksText (request : Request) (discovery : Discovery) : Prop :=
  ∃ given, request.plan = some given ∧
    given.load (request.defaultPath? discovery) = .error (.text .tooManyDigits)

/-- The only failure before there is a pointer is a text that is lacking in the explicit plan. -/
theorem settle_fails
    {request : Request} {discovery : Discovery} (readable : request.Readable discovery) :
    Outcome.FailsFor (settle request discovery) (.text .tooManyDigits)
      (request.PlanLacksText discovery) := by
  cases given : request.plan with
  | none =>
      have noPlan : ¬ request.PlanLacksText discovery := by simp [Request.PlanLacksText, given]
      rw [settle_of_no_plan given]
      split
      · exact .of_not noPlan _
      · split <;> exact .of_not noPlan _
  | some explicit =>
      have lacks_iff :
          request.PlanLacksText discovery ↔
            explicit.load (request.defaultPath? discovery) = .error (.text .tooManyDigits) := by
        simp [Request.PlanLacksText, given]
      rw [settle_of_plan given, lacks_iff]
      cases loaded : explicit.load (request.defaultPath? discovery) with
      | ok plan => exact .of_not nofun _
      | error error =>
          cases error with
          | numeral error =>
              have loads := Given.load_ne_numeral fun plan => readable.explicit explicit plan given
              exact absurd loaded (loads error)
          | text error =>
              cases error
              exact .error rfl
          | _ => exact .of_not nofun _

/-- What settling on a pointer comes to. -/
theorem settle_cases
    {request : Request} {settings : Settings} {discovery : Discovery}
    (found : discovery = request.discovery settings)
    {settlement : Except Failure (Option Plan × String)}
    (chose : settle request discovery = .ok settlement) :
    (∃ failure, settlement = .error failure ∧ FailsFor request discovery failure) ∨
      ∃ explicit recordPath, settlement = .ok (explicit, recordPath) ∧
        Settled explicit recordPath := by
  -- An explicit plan brings its own pointer.
  cases given : request.plan with
  | some explicit =>
      rw [settle_of_plan given] at chose
      cases loaded : explicit.load (request.defaultPath? discovery) with
      | ok plan =>
          rw [loaded] at chose
          cases chose
          have valid := explicit.valid_of_load loaded
          refine .inr ⟨some plan, plan.recordPath, rfl, valid.recordPath, ?_⟩
          intro other same
          cases same
          exact ⟨valid, rfl⟩
      | error error =>
          rw [loaded] at chose
          rcases Outcome.map_eq_ok_iff.1 chose with ⟨failure, refused, rfl⟩
          exact .inl ⟨failure, rfl, refusal_failsFor given loaded refused⟩
  | none =>
      rw [settle_of_no_plan given] at chose
      cases hinted : request.hint? with
      | some path =>
          rw [hinted] at chose
          cases chose
          exact .inr ⟨none, path, rfl, Request.hint_ne_empty hinted, nofun⟩
      | none =>
          rw [hinted] at chose
          cases chosen : discovery.chosen with
          | error error =>
              rw [chosen] at chose
              cases chose
              exact .inl ⟨.noRecords error, rfl, .noRecords given hinted chosen⟩
          | ok best =>
              rw [chosen] at chose
              cases chose
              refine .inr ⟨none, best.candidate.path, rfl, ?_, nofun⟩
              subst found
              rcases Discovery.chosen_eq_ofArray chosen with ⟨path, items, made⟩
              rw [made]
              exact Pointer.join_ne_empty path

theorem settled_of_settle
    {request : Request} {settings : Settings} {discovery : Discovery}
    (found : discovery = request.discovery settings)
    {explicit : Option Plan} {recordPath : String}
    (chose : settle request discovery = .ok (.ok (explicit, recordPath))) :
    Settled explicit recordPath := by
  rcases settle_cases found chose with ⟨failure, notSettled, _⟩ | ⟨_, _, same, settled⟩
  · cases notSettled
  · cases same
    exact settled

/-! ## Running the chosen plan -/

/-- A row that is shown holds a value without a text. -/
def Table.LacksText (table : Table) (settings : Settings) : Prop :=
  ∃ row ∈ table.rows.take settings.previewRows.toNat,
    ∃ column value, row.find? column = some value ∧ ¬ value.Writable

/-- A preview of a plan comes to a text that is lacking: the run of the plan does, or its table. -/
def Plan.LacksText (plan : Plan) (document : Value) (settings : Settings) : Prop :=
  plan.StopsOn document settings.maxRows ∨
    ∃ table, plan.execute document settings.maxRows = .ok (.done table) ∧ Table.LacksText table settings

/-- A chosen plan that can be run on a document: it is valid, its pointer is the one that is reported, and
there are records under it. -/
structure Chosen.Runs (chosen : Chosen) (document : Value) : Prop where
  valid : chosen.plan.Valid
  recordPath : chosen.recordPath = chosen.plan.recordPath
  records : ∃ records, Records.extract document chosen.plan.recordPath = .ok records

/-- A plan to try: one that can be run, or one from a source, about which only its pointer is known. -/
def Chosen.Tries (chosen : Chosen) (document : Value) : Prop :=
  chosen.Runs document ∨
    chosen.origin = .source ∧ chosen.plan.Readable ∧
      chosen.recordPath = chosen.plan.recordPath

/-- A preview that comes from a plan that ran. -/
structure Success.Genuine (success : Success) (document : Value) (maxRows : Int) : Prop where
  valid : success.chosen.plan.Valid
  recordPath : success.chosen.recordPath = success.chosen.plan.recordPath
  rows :
    ∃ table, success.chosen.plan.execute document maxRows = .ok (.done table) ∧
      success.rows = table.rows

theorem Chosen.Runs.execute_fails
    {chosen : Chosen} {document : Value} (runs : chosen.Runs document) (maxRows : Int) :
    Outcome.FailsFor (chosen.plan.execute document maxRows) (.text .tooManyDigits)
      (chosen.plan.StopsOn document maxRows) := by
  rw [runs.valid.execute_eq]
  exact runs.valid.runOn_fails document maxRows

theorem Chosen.Runs.exists_table
    {chosen : Chosen} {document : Value} (runs : chosen.Runs document) {maxRows : Int}
    {execution : Execution} (ran : chosen.plan.execute document maxRows = .ok execution) :
    ∃ table, execution = .done table := by
  rcases runs.records with ⟨records, extracted⟩
  rw [runs.valid.execute_eq, Plan.runOn, extracted] at ran
  rcases Outcome.bind_eq_ok_iff.1 ran with ⟨bounded, _, rest⟩
  rcases Outcome.bind_eq_ok_iff.1 rest with ⟨table, _, done⟩
  cases done
  exact ⟨_, rfl⟩

theorem Chosen.Runs.ne_failed
    {chosen : Chosen} {document : Value} (runs : chosen.Runs document) {maxRows : Int}
    (failure : RowPlan.Failure) :
    chosen.plan.execute document maxRows ≠ .ok (.failed failure) := by
  intro failed
  rcases runs.exists_table failed with ⟨table, done⟩
  cases done

/-- A plan to try that is not reported on can be run. -/
theorem Chosen.Tries.runs
    {chosen : Chosen} {document : Value} (tries : chosen.Tries document) {maxRows : Int}
    (notFailed : ∀ failure, chosen.plan.execute document maxRows ≠ .ok (.failed failure)) :
    chosen.Runs document := by
  rcases tries with runs | ⟨_, readable, recordPath⟩
  · exact runs
  · have valid : chosen.plan.Valid := by
      by_contra notValid
      rcases readable.execute_of_not_valid notValid document maxRows with ⟨problems, failed⟩
      exact notFailed _ failed
    cases extracted : Records.extract document chosen.plan.recordPath with
    | ok records => exact ⟨valid, recordPath, records, extracted⟩
    | error error =>
        have failed : chosen.plan.execute document maxRows = .ok (.failed (.records error)) := by
          rw [valid.execute_eq, Plan.runOn, extracted]
        exact absurd failed (notFailed _)

/-- A plan from a template can be run where the records are. -/
theorem fromTemplate_runs
    (goal : String) {document : Value} {recordPath : String} (given : recordPath ≠ "")
    {records : Records} (extracted : Records.extract document recordPath = .ok records)
    {sample : Row} (wellFormed : sample.WellFormed) :
    (fromTemplate goal recordPath sample).Runs document := by
  have kept := Template.run_plan_recordPath goal given sample
  constructor
  case valid => exact Template.run_plan_valid goal recordPath wellFormed
  case recordPath => exact kept.symm
  case records => exact ⟨records, kept.symm ▸ extracted⟩

/-- The plan that is run in the end: `fallback` in place of one that is reported on. -/
def Chosen.orElse (chosen fallback : Chosen) (document : Value) (maxRows : Int) : Chosen :=
  match chosen.plan.execute document maxRows with
  | .ok (.failed _) => fallback
  | _ => chosen

theorem Chosen.orElse_of_failed
    {chosen : Chosen} {document : Value} {maxRows : Int} {failure : RowPlan.Failure}
    (failed : chosen.plan.execute document maxRows = .ok (.failed failure)) (fallback : Chosen) :
    chosen.orElse fallback document maxRows = fallback := by
  rw [orElse, failed]

theorem Chosen.orElse_of_not_failed
    {chosen : Chosen} {document : Value} {maxRows : Int}
    (notFailed : ∀ failure, chosen.plan.execute document maxRows ≠ .ok (.failed failure))
    (fallback : Chosen) :
    chosen.orElse fallback document maxRows = chosen := by
  rw [orElse]
  split
  · rename_i failure failed
    exact absurd failed (notFailed failure)
  · rfl

theorem runChosen_of_not_failed
    {chosen : Chosen} {document : Value} {maxRows : Int}
    (notFailed : ∀ failure, chosen.plan.execute document maxRows ≠ .ok (.failed failure))
    (fallback : Chosen) :
    runChosen document maxRows chosen fallback =
      (chosen.plan.execute document maxRows).map fun execution => (chosen, [], execution) := by
  rw [runChosen]
  cases ran : chosen.plan.execute document maxRows with
  | error error => rfl
  | ok execution =>
      cases execution with
      | done table => cases chosen.origin <;> rfl
      | failed failure => exact absurd ran (notFailed failure)

theorem runChosen_of_failed
    {chosen : Chosen} (offered : chosen.origin = .source) {document : Value} {maxRows : Int}
    {failure : RowPlan.Failure}
    (failed : chosen.plan.execute document maxRows = .ok (.failed failure)) (fallback : Chosen) :
    runChosen document maxRows chosen fallback =
      (fallback.plan.execute document maxRows).map fun execution =>
        (fallback, [fallbackWarning failure.message], execution) := by
  rw [runChosen, failed, offered]
  cases fallback.plan.execute document maxRows <;> rfl

/-- With something to fall back to, what comes of a plan to try is the run of a plan that can be run. -/
theorem runChosen_eq
    {chosen fallback : Chosen} {document : Value} (tries : chosen.Tries document)
    (fallbackRuns : fallback.Runs document) (maxRows : Int) :
    (chosen.orElse fallback document maxRows).Runs document ∧
      ∃ notes,
        runChosen document maxRows chosen fallback =
          ((chosen.orElse fallback document maxRows).plan.execute document maxRows).map
            fun execution => (chosen.orElse fallback document maxRows, notes, execution) := by
  by_cases reported : ∃ failure, chosen.plan.execute document maxRows = .ok (.failed failure)
  · rcases reported with ⟨failure, failed⟩
    -- Only an offer of a source can fail here, and then the run starts anew with the fallback.
    have offered : chosen.origin = .source := by
      rcases tries with runs | ⟨offered, _⟩
      · exact absurd failed (runs.ne_failed failure)
      · exact offered
    rw [Chosen.orElse_of_failed failed]
    exact ⟨fallbackRuns, _, runChosen_of_failed offered failed fallback⟩
  · rw [not_exists] at reported
    rw [Chosen.orElse_of_not_failed reported]
    exact ⟨tries.runs reported, [], runChosen_of_not_failed reported fallback⟩

/-- What a readable offer comes to: a readable plan or none. -/
theorem fromSource_succeeds
    {offer : Proposal.Offer} (readable : offer.Readable) (document : Value) :
    ∃ offered notes, fromSource document offer = .ok (offered, notes) ∧
      ∀ plan, offered = some plan → plan.Readable := by
  cases offer with
  | plan plan =>
      rw [fromSource]
      split
      · refine ⟨some plan, [], rfl, ?_⟩
        intro other same
        cases same
        exact readable
      · exact ⟨none, _, rfl, nofun⟩
  | nothing => exact ⟨none, [], rfl, nofun⟩
  | failed message => exact ⟨none, _, rfl, nofun⟩
  | unreadable error => cases readable
  | unwritable error => cases readable

/-- The chosen plan can be tried. -/
theorem choose_tries
    {request : Request} {discovery : Discovery} (readable : request.Readable discovery)
    {explicit : Option Plan} {recordPath : String}
    (chose : settle request discovery = .ok (.ok (explicit, recordPath)))
    (settled : Settled explicit recordPath) {records : Records}
    (extracted : Records.extract request.document recordPath = .ok records)
    {fallback : Chosen} (fallbackRuns : fallback.Runs request.document) :
    ∃ chosen notes,
      choose request discovery explicit recordPath (Records.sample records.rows) fallback =
        .ok (chosen, notes) ∧
      chosen.Tries request.document := by
  cases explicit with
  | some plan =>
      rcases settled.explicit plan rfl with ⟨valid, samePath⟩
      refine ⟨_, [], rfl, .inl ⟨valid, samePath.symm, records, ?_⟩⟩
      rw [samePath]
      exact extracted
  | none =>
      cases asked : request.source with
      | none => exact ⟨fallback, [], by simp only [choose, asked], .inl fallbackRuns⟩
      | some source =>
          have offerReadable := readable.source source recordPath records asked chose extracted
          rcases fromSource_succeeds offerReadable request.document with
            ⟨offered, notes, taken, offeredReadable⟩
          simp only [choose, asked, taken]
          cases offered with
          | some plan => exact ⟨_, notes, rfl, .inr ⟨rfl, offeredReadable plan rfl, rfl⟩⟩
          | none => exact ⟨fallback, notes, rfl, .inl fallbackRuns⟩

/-! ## The whole preview -/

/-- The plan of a template for the records at a pointer. -/
def Request.fallback (request : Request) (recordPath : String) (records : Records) : Chosen :=
  fromTemplate (request.goal.getD "") recordPath (Records.sample records.rows)

theorem Request.fallback_runs
    {request : Request} (wellFormed : request.document.WellFormed) {recordPath : String}
    (given : recordPath ≠ "") {records : Records}
    (extracted : Records.extract request.document recordPath = .ok records) :
    (request.fallback recordPath records).Runs request.document :=
  fromTemplate_runs (request.goal.getD "") given extracted
    (Value.wellFormed_passesToRecords.of_sample wellFormed extracted)

/-- A preview comes to a text that is lacking, in its explicit plan or with the plan that is run. -/
inductive LacksText (request : Request) (discovery : Discovery) (settings : Settings) : Prop where
  | explicit : request.PlanLacksText discovery → LacksText request discovery settings
  | table {explicit recordPath records chosen notes} :
      settle request discovery = .ok (.ok (explicit, recordPath)) →
      Records.extract request.document recordPath = .ok records →
      choose request discovery explicit recordPath (Records.sample records.rows)
          (request.fallback recordPath records) =
        .ok (chosen, notes) →
      Plan.LacksText
        (chosen.orElse (request.fallback recordPath records) request.document settings.maxRows).plan
        request.document settings →
      LacksText request discovery settings

/-- A table makes a preview if the rows that are shown have texts. -/
theorem conclude_fails
    (settings : Settings) (chosen : Chosen) (warnings : List String) (table : Table) :
    Outcome.FailsFor (conclude settings chosen warnings (.done table)) (.text .tooManyDigits)
      (Table.LacksText table settings) := by
  have shown :
      Outcome.FailsFor (Csv.preview settings.previewRows table.rows) .tooManyDigits
        (Table.LacksText table settings) := by
    refine TextError.failsFor (Csv.succeeds_write_iff.trans ?_)
    simp [Table.LacksText]
  exact (shown.mapError StepError.text).bind_ok _

section Concluding

variable {chosen : Chosen} {document : Value} {settings : Settings} {warnings : List String}

theorem Chosen.Runs.concluded_fails (runs : chosen.Runs document) :
    Outcome.FailsFor
      (chosen.plan.execute document settings.maxRows >>= conclude settings chosen warnings)
      (.text .tooManyDigits) (Plan.LacksText chosen.plan document settings) := by
  have later (execution : Execution)
      (ran : chosen.plan.execute document settings.maxRows = .ok execution) :
      Outcome.FailsFor (conclude settings chosen warnings execution) (.text .tooManyDigits)
        (∃ table, execution = .done table ∧ Table.LacksText table settings) := by
    rcases runs.exists_table ran with ⟨table, rfl⟩
    exact (conclude_fails settings chosen warnings table).congr (by simp)
  refine ((runs.execute_fails settings.maxRows).bind later).congr (or_congr_right ?_)
  constructor
  · rintro ⟨_, ran, table, rfl, lacking⟩
    exact ⟨table, ran, lacking⟩
  · rintro ⟨table, ran, lacking⟩
    exact ⟨_, ran, table, rfl, lacking⟩

/-- What comes of a plan that can be run is its table, with the text of the rows that are shown. -/
theorem Chosen.Runs.concluded_eq_ok_iff
    (runs : chosen.Runs document) {result : Except Failure Success} :
    chosen.plan.execute document settings.maxRows >>= conclude settings chosen warnings = .ok result ↔
      ∃ table csv, chosen.plan.execute document settings.maxRows = .ok (.done table) ∧
        Csv.preview settings.previewRows table.rows = .ok csv ∧
        result = .ok ⟨chosen, table.rows, csv, warnings ++ table.warnings⟩ := by
  rw [Outcome.bind_eq_ok_iff]
  constructor
  · rintro ⟨execution, ran, shown⟩
    rcases runs.exists_table ran with ⟨table, rfl⟩
    rcases Outcome.bind_eq_ok_iff.1 shown with ⟨csv, written, made⟩
    cases made
    exact ⟨table, csv, ran, Outcome.mapError_eq_ok_iff.1 written, rfl⟩
  · rintro ⟨table, csv, ran, written, rfl⟩
    exact ⟨_, ran, Outcome.bind_eq_ok_iff.2 ⟨csv, Outcome.mapError_eq_ok_iff.2 written, rfl⟩⟩

theorem Chosen.Runs.concluded_genuine
    (runs : chosen.Runs document) {result : Except Failure Success}
    (concluded :
      chosen.plan.execute document settings.maxRows >>= conclude settings chosen warnings =
        .ok result) :
    ∃ success, result = .ok success ∧ success.Genuine document settings.maxRows := by
  rcases runs.concluded_eq_ok_iff.1 concluded with ⟨table, csv, ran, _, rfl⟩
  exact ⟨_, rfl, runs.valid, runs.recordPath, table, ran, rfl⟩

end Concluding

theorem proceed_eq_bind
    {request : Request} {discovery : Discovery} {explicit : Option Plan} {recordPath : String}
    {records : Records} {chosen : Chosen} {notes : List String}
    (picked :
      choose request discovery explicit recordPath (Records.sample records.rows)
          (request.fallback recordPath records) =
        .ok (chosen, notes))
    (settings : Settings) :
    proceed request discovery settings explicit recordPath (Records.sample records.rows) =
      runChosen request.document settings.maxRows chosen (request.fallback recordPath records) >>=
        fun final => conclude settings final.1 (notes ++ final.2.1) final.2.2 := by
  rw [Request.fallback] at picked
  rw [proceed, picked]
  rfl

/-- The run of a chosen plan that can be run makes the preview. -/
theorem proceed_of_runs
    {request : Request} {discovery : Discovery} {explicit : Option Plan} {recordPath : String}
    {records : Records} {chosen : Chosen} {notes : List String}
    (picked :
      choose request discovery explicit recordPath (Records.sample records.rows)
          (request.fallback recordPath records) =
        .ok (chosen, notes))
    (runs : chosen.Runs request.document) (settings : Settings) :
    proceed request discovery settings explicit recordPath (Records.sample records.rows) =
      chosen.plan.execute request.document settings.maxRows >>= conclude settings chosen notes := by
  rw [proceed_eq_bind picked, runChosen_of_not_failed runs.ne_failed]
  cases chosen.plan.execute request.document settings.maxRows with
  | error error => rfl
  | ok execution =>
      change conclude settings chosen (notes ++ []) execution = conclude settings chosen notes execution
      rw [List.append_nil]

/-- Once there are records under the pointer that was settled on, a preview concludes from a plan that can be
run. -/
theorem proceed_concludes
    {request : Request} {discovery : Discovery} (readable : request.Readable discovery)
    (wellFormed : request.document.WellFormed) (settings : Settings)
    {explicit : Option Plan} {recordPath : String}
    (chose : settle request discovery = .ok (.ok (explicit, recordPath)))
    (settled : Settled explicit recordPath) {records : Records}
    (extracted : Records.extract request.document recordPath = .ok records) :
    ∃ chosen notes final warnings,
      choose request discovery explicit recordPath (Records.sample records.rows)
          (request.fallback recordPath records) =
        .ok (chosen, notes) ∧
      final = chosen.orElse (request.fallback recordPath records) request.document settings.maxRows ∧
      final.Runs request.document ∧
      proceed request discovery settings explicit recordPath (Records.sample records.rows) =
        final.plan.execute request.document settings.maxRows >>=
          conclude settings final warnings := by
  have fallbackRuns := Request.fallback_runs wellFormed settled.given extracted
  rcases choose_tries readable chose settled extracted fallbackRuns with
    ⟨chosen, notes, picked, tries⟩
  rcases runChosen_eq tries fallbackRuns settings.maxRows with ⟨runs, more, ran⟩
  refine ⟨chosen, notes, _, notes ++ more, picked, rfl, runs, ?_⟩
  rw [proceed_eq_bind picked, ran]
  cases Plan.execute _ request.document settings.maxRows <;> rfl

theorem build_eq_proceed
    {request : Request} {discovery : Discovery} {explicit : Option Plan} {recordPath : String}
    (chose : settle request discovery = .ok (.ok (explicit, recordPath))) {records : Records}
    (extracted : Records.extract request.document recordPath = .ok records) (settings : Settings) :
    build request discovery settings =
      proceed request discovery settings explicit recordPath (Records.sample records.rows) := by
  simp only [build, chose, bind, Except.bind, extracted]

theorem build_of_not_extract
    {request : Request} {discovery : Discovery} {explicit : Option Plan} {recordPath : String}
    (chose : settle request discovery = .ok (.ok (explicit, recordPath))) {error : RecordError}
    (failed : Records.extract request.document recordPath = .error error) (settings : Settings) :
    build request discovery settings = .ok (.error (.badRecords recordPath error)) := by
  simp only [build, chose, bind, Except.bind, failed]

/-- A preview succeeds where its pointer is settled, the records are there, and the run succeeds. -/
theorem build_eq_ok_iff
    {request : Request} {discovery : Discovery} {settings : Settings} {success : Success} :
    build request discovery settings = .ok (.ok success) ↔
      ∃ explicit recordPath records,
        settle request discovery = .ok (.ok (explicit, recordPath)) ∧
        Records.extract request.document recordPath = .ok records ∧
        proceed request discovery settings explicit recordPath (Records.sample records.rows) =
          .ok (.ok success) := by
  rw [build, Outcome.bind_eq_ok_iff]
  constructor
  · rintro ⟨settlement, chose, built⟩
    cases settlement with
    | error failure => cases built
    | ok settlement =>
        rcases settlement with ⟨explicit, recordPath⟩
        cases extracted : Records.extract request.document recordPath with
        | error error =>
            simp only [extracted] at built
            cases built
        | ok records =>
            simp only [extracted] at built
            exact ⟨explicit, recordPath, records, chose, extracted, built⟩
  · rintro ⟨explicit, recordPath, records, chose, extracted, proceeded⟩
    refine ⟨_, chose, ?_⟩
    simp only [extracted]
    exact proceeded

/-- Once there are records, a text is lacking if and only if it is for the plan that is run. -/
theorem lacksText_iff_of_chosen
    {request : Request} {discovery : Discovery} {settings : Settings} {explicit : Option Plan}
    {recordPath : String} {records : Records} {chosen : Chosen} {notes : List String}
    (noPlanLacks : ¬ request.PlanLacksText discovery)
    (chose : settle request discovery = .ok (.ok (explicit, recordPath)))
    (extracted : Records.extract request.document recordPath = .ok records)
    (picked :
      choose request discovery explicit recordPath (Records.sample records.rows)
          (request.fallback recordPath records) =
        .ok (chosen, notes)) :
    LacksText request discovery settings ↔
      Plan.LacksText
        (chosen.orElse (request.fallback recordPath records) request.document settings.maxRows).plan
        request.document settings := by
  constructor
  · rintro (lacking | ⟨otherChose, otherExtracted, otherPicked, lacking⟩)
    · exact absurd lacking noPlanLacks
    · cases chose.symm.trans otherChose
      cases extracted.symm.trans otherExtracted
      cases picked.symm.trans otherPicked
      exact lacking
  · exact .table chose extracted picked

/-- The only thing that stops a preview is a text that is lacking. -/
theorem build_fails
    {request : Request} {settings : Settings} {discovery : Discovery}
    (found : discovery = request.discovery settings) (readable : request.Readable discovery)
    (wellFormed : request.document.WellFormed) :
    Outcome.FailsFor (build request discovery settings) (.text .tooManyDigits)
      (LacksText request discovery settings) := by
  have settles := settle_fails readable
  cases chose : settle request discovery with
  | error error =>
      rcases (settles error).1 chose with ⟨rfl, lacking⟩
      rw [build, chose]
      exact .error (.explicit lacking)
  | ok settlement =>
      have noPlanLacks := settles.succeeds_iff.1 ⟨settlement, chose⟩
      rcases settle_cases found chose with ⟨failure, rfl, _⟩ | ⟨explicit, recordPath, rfl, settled⟩
      · rw [build, chose]
        refine .of_not ?_ _
        rintro (lacking | ⟨otherChose, _⟩)
        · exact noPlanLacks lacking
        · cases chose.symm.trans otherChose
      · cases extracted : Records.extract request.document recordPath with
        | error error =>
            rw [build_of_not_extract chose extracted]
            refine .of_not ?_ _
            rintro (lacking | ⟨otherChose, otherExtracted, _⟩)
            · exact noPlanLacks lacking
            · cases chose.symm.trans otherChose
              cases extracted.symm.trans otherExtracted
        | ok records =>
            rcases proceed_concludes readable wellFormed settings chose settled extracted with
              ⟨chosen, notes, final, warnings, picked, rfl, runs, concluded⟩
            rw [build_eq_proceed chose extracted, concluded]
            exact runs.concluded_fails.congr
              (lacksText_iff_of_chosen noPlanLacks chose extracted picked).symm

/-- Where there are records, a preview that ends has succeeded. -/
theorem build_genuine
    {request : Request} {settings : Settings} {discovery : Discovery}
    (found : discovery = request.discovery settings) (readable : request.Readable discovery)
    (wellFormed : request.document.WellFormed) {explicit : Option Plan} {recordPath : String}
    (chose : settle request discovery = .ok (.ok (explicit, recordPath))) {records : Records}
    (extracted : Records.extract request.document recordPath = .ok records)
    {result : Except Failure Success} (built : build request discovery settings = .ok result) :
    ∃ success, result = .ok success ∧ success.Genuine request.document settings.maxRows := by
  have settled := settled_of_settle found chose
  rcases proceed_concludes readable wellFormed settings chose settled extracted with
    ⟨chosen, notes, final, warnings, _, _, runs, concluded⟩
  rw [build_eq_proceed chose extracted, concluded] at built
  exact runs.concluded_genuine built

/-- A preview that ends has failed at its explicit plan or at its records, or it has succeeded. -/
theorem build_cases
    {request : Request} {settings : Settings} {discovery : Discovery}
    (found : discovery = request.discovery settings) (readable : request.Readable discovery)
    (wellFormed : request.document.WellFormed) {result : Except Failure Success}
    (built : build request discovery settings = .ok result) :
    (∃ failure, result = .error failure ∧ FailsFor request discovery failure) ∨
      ∃ success, result = .ok success ∧ success.Genuine request.document settings.maxRows := by
  rcases Outcome.bind_eq_ok_iff.1 built with ⟨settlement, chose, rest⟩
  rcases settle_cases found chose with ⟨failure, rfl, fails⟩ | ⟨explicit, recordPath, rfl, _⟩
  · cases rest
    exact .inl ⟨failure, rfl, fails⟩
  · cases extracted : Records.extract request.document recordPath with
    | error error =>
        cases built.symm.trans (build_of_not_extract chose extracted settings)
        exact .inl ⟨_, rfl, .badRecords chose extracted⟩
    | ok records => exact .inr (build_genuine found readable wellFormed chose extracted built)

theorem run_eq_map (request : Request) (settings : Settings) :
    run request settings =
      (build request (request.discovery settings) settings).map fun result =>
        ⟨request.discovery settings, result⟩ := rfl

/--
Whatever its source of plans does, a preview is stopped only by a text that is lacking, and otherwise it
fails only at an explicit plan that is not accepted or at records that are not found. Once the records are
there a preview that ends has succeeded, with a plan that breaks no rule, the pointer of that plan, and the
rows that the plan gives on the document.
-/
theorem run_fails_only_for
    (request : Request) (settings : Settings) (wellFormed : request.document.WellFormed)
    (readable : request.Readable (request.discovery settings)) :
    Outcome.FailsFor (run request settings) (.text .tooManyDigits)
        (LacksText request (request.discovery settings) settings) ∧
      ∀ preview, run request settings = .ok preview →
        (∀ failure, preview.result = .error failure →
          FailsFor request preview.discovery failure ∧
          (failure.code = "PLAN_INVALID" ∨ failure.code = "PLAN_PARSE_ERROR" ∨
            failure.code = "RECORDPATH_NOT_FOUND")) ∧
        (∀ explicit recordPath records,
          settle request preview.discovery = .ok (.ok (explicit, recordPath)) →
          Records.extract request.document recordPath = .ok records →
          ∃ success, preview.result = .ok success) ∧
        ∀ success, preview.result = .ok success →
          success.chosen.plan.check = .ok [] ∧
          success.chosen.recordPath = success.chosen.plan.recordPath ∧
          ∃ table,
            success.chosen.plan.execute request.document settings.maxRows = .ok (.done table) ∧
            success.rows = table.rows := by
  rw [run_eq_map]
  refine ⟨(build_fails rfl readable wellFormed).map _, fun preview ran => ?_⟩
  rcases Outcome.map_eq_ok_iff.1 ran with ⟨result, built, rfl⟩
  refine ⟨?_, ?_, ?_⟩
  · rintro failure rfl
    rcases build_cases rfl readable wellFormed built with ⟨other, same, fails⟩ | ⟨_, notFailed, _⟩
    · cases same
      exact ⟨fails, fails.code⟩
    · cases notFailed
  · intro explicit recordPath records chose extracted
    rcases build_genuine rfl readable wellFormed chose extracted built with ⟨success, succeeded, _⟩
    exact ⟨success, succeeded⟩
  · rintro success rfl
    rcases build_cases rfl readable wellFormed built with ⟨_, notSucceeded, _⟩ | ⟨other, same, genuine⟩
    · cases notSucceeded
    · cases same
      exact ⟨success.chosen.plan.check_eq_nil_iff.2 genuine.valid, genuine.recordPath, genuine.rows⟩

/-- A source offers a plan that breaks the rules, and there is a preview all the same. -/
theorem run_fails_only_for_refused_offer :
    let request : Request :=
      ⟨.obj [("items", .arr [.obj [("k", .str "a")]])], none, none,
        some fun _ => .plan ⟨"0", "/items", [.limit none]⟩, some "/items"⟩
    request.document.WellFormed ∧ request.Readable (request.discovery Settings.default) ∧
    ∃ preview success,
      run request Settings.default = .ok preview ∧ preview.result = .ok success ∧
      success.chosen.plan.check = .ok [] ∧
      success.chosen.recordPath = success.chosen.plan.recordPath := by
  intro request
  have wellFormed : request.document.WellFormed := by simp [request]
  have readable : request.Readable (request.discovery Settings.default) := by
    constructor
    case explicit => exact nofun
    case source =>
      intro source recordPath records offered _ _
      cases offered
      simp [Proposal.Offer.Readable, Plan.Readable, Step.texts]
  have ends : ∃ preview, run request Settings.default = .ok preview := by
    subst request
    exact ⟨_, rfl⟩
  rcases ends with ⟨preview, ran⟩
  rcases (run_fails_only_for request Settings.default wellFormed readable).2 preview ran with
    ⟨_, succeeds, genuine⟩
  have chose (discovery : Discovery) :
      settle request discovery = .ok (.ok (none, "/items")) := rfl
  have extracted : Records.extract request.document "/items" = .ok ⟨[[("k", .str "a")]], []⟩ := rfl
  rcases succeeds none "/items" _ (chose preview.discovery) extracted with ⟨success, succeeded⟩
  rcases genuine success succeeded with ⟨valid, samePath, _⟩
  exact ⟨wellFormed, readable, preview, success, ran, succeeded, valid, samePath⟩

/-- The square of an integer of the document has too many digits to be shown: there is a table, and no
preview. -/
theorem run_stops_beyond_limit :
    let document : Value := .arr [.obj [("a", .num (.int (10 ^ 3000 : Nat)))]]
    let row : Row :=
      [("a", .num (.int (10 ^ 3000 : Nat))), ("b", .num (.int (10 ^ 3000 * 10 ^ 3000 : Nat)))]
    let plan : Plan := ⟨planVersion, "/", [.compute [⟨"b", "a*a"⟩]]⟩
    document.WellFormed ∧ plan.Valid ∧
      plan.execute document Settings.default.maxRows = .ok (.done ⟨[row], []⟩) ∧
      run ⟨document, none, some (.written plan.toValue), none, some "/"⟩ Settings.default =
        .error (.text .tooManyDigits) := by
  intro document row plan
  let request : Request := ⟨document, none, some (.written plan.toValue), none, some "/"⟩
  have wellFormed (n : Int) : (Value.arr [.obj [("a", .num (.int n))]]).WellFormed := by simp
  have valid : plan.Valid := plan.check_eq_nil_iff.1 (by rfl)
  have done : plan.execute document Settings.default.maxRows = .ok (.done ⟨[row], []⟩) := by
    subst plan document row
    rfl
  have chose (discovery : Discovery) :
      settle request discovery = .ok (.ok (some plan, "/")) := by rfl
  have extracted :
      Records.extract document "/" = .ok ⟨[[("a", .num (.int (10 ^ 3000 : Nat)))]], []⟩ := rfl
  have picked (records : Records) :
      choose request (request.discovery Settings.default) (some plan) "/"
          (Records.sample records.rows) (request.fallback "/" records) =
        .ok (⟨plan, .explicit, "/"⟩, []) := rfl
  have runs : Chosen.Runs ⟨plan, .explicit, "/"⟩ document := ⟨valid, rfl, _, extracted⟩
  have lacking : Table.LacksText ⟨[row], []⟩ Settings.default := by
    refine ⟨row, List.mem_singleton.2 rfl, "b", _, rfl, ?_⟩
    rw [Value.writable_num_iff]
    exact Decimal.not_writable_square (by decide)
  have stopped :
      build request (request.discovery Settings.default) Settings.default =
        .error (.text .tooManyDigits) := by
    rw [build_eq_proceed (chose _) extracted, proceed_of_runs (picked _) runs]
    exact runs.concluded_fails.eq_error (.inr ⟨_, done, lacking⟩)
  refine ⟨wellFormed _, valid, done, ?_⟩
  rw [run_eq_map, stopped]
  rfl

/-- A preview of a document that is read ends unless a text is lacking, whatever the document repeats and
however deep it is. -/
theorem run_fails_of_read
    {text : String} {request : Request} (isRead : Json.read text = .ok request.document)
    {settings : Settings} (readable : request.Readable (request.discovery settings)) :
    Outcome.FailsFor (run request settings) (.text .tooManyDigits)
      (LacksText request (request.discovery settings) settings) := by
  rw [run_eq_map]
  exact (build_fails rfl readable (Json.wellFormed_of_read isRead)).map _

end Preview

end RowPlan
