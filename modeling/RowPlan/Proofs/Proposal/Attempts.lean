import RowPlan.Proofs.Json.Documents
import RowPlan.Proofs.Plan.Reading
import RowPlan.Proposal.Source

/-!
# The course of a request

A request for a plan takes a course: some attempts are rejected, each by an error that another attempt
may mend, and then one decides. It gives a plan, or an error that no further attempt would mend, or the
limit of attempts is reached. Every prompt after the first one says why the attempt right before it was
rejected.

A source of plans can be asked again and again. Each request takes the course that it would take as the
first one, on the replies that the provider has left. Only a request whose prompt cannot be written, which the
sample record or the candidates would have to hold an integer with too many digits for, ends before its
first attempt.
-/

namespace RowPlan.Proposal

open RowPlan.Outcome (Succeeds)

/-! ## One attempt -/

/-- A plan that may be returned: it breaks no rule, and it is for one of the candidates if there are
any. -/
structure Acceptable (request : Request) (plan : Plan) : Prop where
  checked : plan.check = .ok []
  candidate : request.candidates ≠ [] → plan.recordPath ∈ request.candidates.map (·.path)

theorem valid_of_load
    {value : Value} {defaultPath : Option String} {plan : Plan}
    (loaded : load value defaultPath = .ok plan) :
    plan.Valid :=
  ((Plan.load_eq_ok_iff _ _).1 (Outcome.mapError_eq_ok_iff.1 loaded)).2

theorem checkPath_eq_ok
    {candidates : List Candidate} {plan accepted : Plan}
    (checked : checkPath candidates plan = .ok accepted) :
    accepted = plan ∧ (candidates ≠ [] → plan.recordPath ∈ candidates.map (·.path)) := by
  simp only [checkPath] at checked
  split at checked
  · rename_i known
    cases checked
    refine ⟨rfl, ?_⟩
    intro some
    simpa [some] using known
  · cases checked

theorem acceptable_of_judge
    {request : Request} {reply : Reply} {plan : Plan} (judged : judge request reply = .ok plan) :
    Acceptable request plan := by
  cases reply with
  | failed failure => cases judged
  | text text =>
      rcases Outcome.bind_eq_ok_iff.1 judged with ⟨read, loadedText, checked⟩
      rcases Outcome.bind_eq_ok_iff.1 loadedText with ⟨value, _, loaded⟩
      rcases checkPath_eq_ok checked with ⟨rfl, candidate⟩
      exact ⟨plan.check_eq_nil_iff.2 (valid_of_load loaded), candidate⟩

/-! ## Prompts -/

/-- What a prompt says about the error of the attempt before: nothing if there is none, or if it has no
wording. -/
def rejectionText : Option ProposalError → String
  | none => ""
  | some error =>
    if error.report = "" then ""
    else "\nYour previous reply was rejected: " ++ error.report ++ ". Return a corrected plan."

/-- A rejection is said at the end of the prompt, and changes nothing else in it. -/
theorem prompt_report
    {request : Request} {asked : String} (first : prompt request none = .ok asked)
    (before : Option ProposalError) :
    prompt request (before.map ProposalError.report) = .ok (asked ++ rejectionText before) := by
  rcases RowPlan.Outcome.bind_eq_ok_iff.1 first with ⟨lines, written, joined⟩
  cases joined
  rw [prompt, written]
  change Except.ok _ = Except.ok _
  congr 1
  cases before with
  | none => exact (String.append_empty).symm
  | some error =>
      rw [Option.map_some, rejectionText]
      by_cases wordless : error.report = ""
      · rw [if_pos wordless, wordless, String.append_empty]
        rfl
      · have said :
            rejectionLines (some error.report) =
              ["Your previous reply was rejected: " ++ error.report ++
                ". Return a corrected plan."] := by
          rw [rejectionLines, if_neg (by simpa using wordless)]
          rfl
        rw [if_neg wordless, said, String.intercalate_append_of_ne_nil (by simp) (by simp),
          String.intercalate_singleton, rejectionLines, List.append_nil, String.append_assoc]
        rfl

theorem succeeds_candidateText_iff (candidate : Candidate) :
    Succeeds (candidateText candidate) ↔ Decimal.Writable candidate.arrayLength := by
  rw [candidateText, RowPlan.Outcome.succeeds_bind_ok_iff, Decimal.succeeds_writeInteger_iff]

theorem succeeds_candidateLines_iff (candidates : List Candidate) :
    Succeeds (candidateLines candidates) ↔
      ∀ candidate ∈ candidates.take listedCandidates, Decimal.Writable candidate.arrayLength := by
  rw [candidateLines]
  split
  · rename_i none
    simp [List.isEmpty_iff.1 none]
  · simp only [RowPlan.Outcome.succeeds_bind_ok_iff, RowPlan.Outcome.succeeds_mapM_iff,
      succeeds_candidateText_iff]

/-- A prompt is written if the sample record can be, and the lengths of the candidates that it lists. -/
theorem succeeds_prompt_iff (request : Request) (rejection : Option String) :
    Succeeds (prompt request rejection) ↔
      request.sample.Writable ∧
        ∀ candidate ∈ request.candidates.take listedCandidates,
          Decimal.Writable candidate.arrayLength := by
  rw [prompt, RowPlan.Outcome.succeeds_bind_ok_iff, requestLines, RowPlan.Outcome.succeeds_bind_iff]
  simp only [RowPlan.Outcome.succeeds_bind_ok_iff, Json.succeeds_write_iff, exists_and_right]
  rw [and_comm, ← succeeds_candidateLines_iff]
  rfl

/-! ## The course -/

/-- The judgement of the reply to an attempt; the first attempt has number 0. -/
def judgement (request : Request) (replies : List Reply) (attempt : Nat) :
    Except ProposalError Plan :=
  judge request (replies[attempt]?.getD .exhausted)

/-- The course of a request that starts after the error `before`: the errors of the attempts that were
rejected, and the decision of the last one. Only errors that another attempt may mend are passed over,
and such an error decides only where no attempt is left. The text `asked` is what every prompt says, be it
the first one or not. -/
structure Course
    (request : Request) (asked : String) (before : Option ProposalError) (limit : Nat)
    (replies : List Reply) (rejected : List ProposalError) (decision : Except ProposalError Plan)
    (outcome : Outcome) :
    Prop where
  within : rejected.length < limit
  rejections : ∀ attempt error, rejected[attempt]? = some error →
    judgement request replies attempt = .error error ∧ error.category.isRetryable = true
  decided : judgement request replies rejected.length = decision
  final : ∀ error, decision = .error error → error.category.isRetryable = true →
    rejected.length + 1 = limit
  prompts : outcome.prompts =
    (before :: rejected.map some).map fun rejection => asked ++ rejectionText rejection
  plan : outcome.plan = decision.toOption
  lastError : ∀ error, decision = .error error → outcome.lastError = some error

namespace Course

variable {request : Request} {asked : String} {before : Option ProposalError} {limit : Nat}
  {replies : List Reply}

/-- There are an attempt and no more of them than the limit allows. -/
theorem prompts_length
    {rejected : List ProposalError} {decision : Except ProposalError Plan} {outcome : Outcome}
    (course : Course request asked before limit replies rejected decision outcome) :
    1 ≤ outcome.prompts.length ∧ outcome.prompts.length ≤ limit := by
  have within := course.within
  rw [course.prompts, List.length_map, List.length_cons, List.length_map]
  omega

theorem acceptable
    {rejected : List ProposalError} {decision : Except ProposalError Plan} {outcome : Outcome}
    (course : Course request asked before limit replies rejected decision outcome) {plan : Plan}
    (returned : outcome.plan = some plan) :
    Acceptable request plan := by
  rw [course.plan] at returned
  cases decision with
  | error error => cases returned
  | ok decided =>
      cases returned
      exact acceptable_of_judge course.decided

theorem first
    {decision : Except ProposalError Plan} {last : Option ProposalError}
    (decided : judgement request replies 0 = decision)
    (final : ∀ error, decision = .error error → error.category.isRetryable = true → limit = 0)
    (lastError : ∀ error, decision = .error error → last = some error) :
    Course request asked before (limit + 1) replies [] decision
      ⟨decision.toOption, [asked ++ rejectionText before], last⟩ where
  within := Nat.succ_pos limit
  rejections := nofun
  decided := decided
  final error failed retryable := by rw [final error failed retryable, List.length_nil]
  prompts := rfl
  plan := rfl
  lastError := lastError

/-- A rejected attempt goes before the course of the attempts that are left. -/
theorem retry
    {error : ProposalError} (rejection : judgement request replies 0 = .error error)
    (retryable : error.category.isRetryable = true) {rejected : List ProposalError}
    {decision : Except ProposalError Plan} {outcome : Outcome}
    (course : Course request asked (some error) limit replies.tail rejected decision outcome) :
    Course request asked before (limit + 1) replies (error :: rejected) decision
      { outcome with prompts := (asked ++ rejectionText before) :: outcome.prompts } where
  within := Nat.succ_lt_succ course.within
  rejections := by
    intro attempt other found
    cases attempt with
    | zero =>
        cases found
        exact ⟨rejection, retryable⟩
    | succ attempt =>
        rcases course.rejections attempt other found with ⟨judged, otherRetryable⟩
        rw [judgement, List.getElem?_tail] at judged
        exact ⟨judged, otherRetryable⟩
  decided := by
    rw [← course.decided, judgement, judgement, List.getElem?_tail]
    rfl
  final other failed otherRetryable := congrArg (· + 1) (course.final other failed otherRetryable)
  prompts := by
    dsimp only
    rw [course.prompts]
    rfl
  plan := course.plan
  lastError := course.lastError

end Course

theorem ask_succ
    {request : Request} {asked : String} (first : prompt request none = .ok asked)
    (before : Option ProposalError) (limit : Nat) (replies : List Reply) :
    ask request before (limit + 1) replies =
      let sent := asked ++ rejectionText before
      match judgement request replies 0 with
      | .ok plan => .ok ⟨some plan, [sent], before⟩
      | .error error =>
        if error.category.isRetryable then
          (ask request (some error) limit replies.tail).map fun outcome =>
            { outcome with prompts := sent :: outcome.prompts }
        else .ok ⟨none, [sent], some error⟩ := by
  rw [ask, prompt_report first]
  cases replies <;> rfl

/-- Every request that allows an attempt takes a course, if its prompt can be written. -/
theorem ask_course
    {request : Request} {asked : String} (first : prompt request none = .ok asked)
    (before : Option ProposalError) {limit : Nat} (positive : 0 < limit) (replies : List Reply) :
    ∃ outcome rejected decision,
      ask request before limit replies = .ok outcome ∧
        Course request asked before limit replies rejected decision outcome := by
  -- Only an error that another attempt may mend leaves something to the attempts that are left.
  induction limit generalizing before replies with
  | zero => cases positive
  | succ limit others =>
      rw [ask_succ first]
      cases judged : judgement request replies 0 with
      | ok plan => exact ⟨_, [], .ok plan, rfl, .first judged nofun nofun⟩
      | error error =>
          have sameError (other : ProposalError)
              (same : (.error error : Except ProposalError Plan) = .error other) :
              some error = some other := congrArg some (Except.error.inj same)
          cases retryable : error.category.isRetryable with
          | false =>
              simp only [retryable, Bool.false_eq_true, if_false]
              refine ⟨_, [], .error error, rfl, .first judged ?_ sameError⟩
              intro other same otherRetryable
              cases same
              cases retryable.symm.trans otherRetryable
          | true =>
              simp only [retryable, if_true]
              cases limit with
              | zero => exact ⟨_, [], .error error, rfl, .first judged (fun _ _ _ => rfl) sameError⟩
              | succ limit =>
                  rcases others (some error) (Nat.succ_pos limit) replies.tail with
                    ⟨outcome, rejected, decision, later, course⟩
                  refine ⟨_, error :: rejected, decision, ?_, course.retry judged retryable⟩
                  rw [later]
                  rfl

theorem ask_of_unwritten
    {request : Request} {error : TextError} (unwritten : prompt request none = .error error)
    {limit : Nat} (positive : 0 < limit) (replies : List Reply) :
    ask request none limit replies = .error error := by
  obtain ⟨fewer, rfl⟩ := Nat.exists_eq_succ_of_ne_zero positive.ne'
  rw [ask, Option.map_none, unwritten]
  rfl

/-! ## One request after the other -/

/-- A source that was asked for plans one after the other, and the replies that its provider has left. -/
def Completion.afterAll (source : Completion) (replies : List Reply) :
    List Request → Completion × List Reply
  | [] => (source, replies)
  | request :: rest =>
    let (result, after) := source.request request replies
    let attempts := (result.toOption.map (·.prompts.length)).getD 0
    after.afterAll (replies.drop attempts) rest

theorem Completion.afterAll_maxAttempts
    (source : Completion) (replies : List Reply) (requests : List Request) :
    (source.afterAll replies requests).1.maxAttempts = source.maxAttempts := by
  induction requests generalizing source replies with
  | nil => rfl
  | cons request rest later =>
      refine (later _ _).trans ?_
      change (source.request request replies).2.maxAttempts = _
      rw [Completion.request]
      split <;> rfl

/-- What a request comes to depends on the limit of attempts alone. -/
theorem Completion.request_congr
    {source other : Completion} (same : source.maxAttempts = other.maxAttempts)
    (request : Request) (replies : List Reply) :
    source.request request replies = other.request request replies := by
  simp only [Completion.request, same]

/--
A source that may make some attempts takes a course at every request of which the prompt can be written,
whatever it was asked before and whatever its provider replies. It makes at least one attempt and keeps to
its limit; it returns only acceptable plans, and keeps the last error of the request. The sample record of a
document that was read does not keep the prompt from being written. A request of which the prompt cannot be
written fails without an attempt and without a last error. All of this is as if the source had not been asked
before.
-/
theorem Completion.request_takes_course
    {limit : Int} (positive : 1 ≤ limit) :
    ∃ source, Completion.ofLimit? limit = some source ∧
      ∀ (script : List Reply) (earlier : List Request) (request : Request),
        let (before, replies) := source.afterAll script earlier
        let (result, after) := before.request request replies
        (result, after) = source.request request replies ∧
          ((∃ asked, prompt request none = .ok asked) ↔
            request.sample.Writable ∧
              ∀ candidate ∈ request.candidates.take listedCandidates,
                Decimal.Writable candidate.arrayLength) ∧
          (∀ text document path records,
            Json.read text = .ok document → Records.extract document path = .ok records →
              request.sample = Records.sample records.rows → request.sample.Writable) ∧
          (∀ asked, prompt request none = .ok asked →
            ∃ outcome rejected decision, result = .ok outcome ∧
              Course request asked none limit.toNat replies rejected decision outcome ∧
              (1 ≤ outcome.prompts.length ∧ outcome.prompts.length ≤ limit) ∧
              (∀ plan, outcome.plan = some plan → Acceptable request plan) ∧
              after.lastError = outcome.lastError) ∧
          ∀ error, prompt request none = .error error →
            result = .error error ∧ after.lastError = none := by
  have allowed : 0 < limit.toNat := by omega
  refine ⟨⟨limit.toNat, none⟩, if_neg (by omega), ?_⟩
  intro script earlier request
  have alone :=
    request_congr (afterAll_maxAttempts ⟨limit.toNat, none⟩ script earlier) request
  dsimp only
  rw [alone]
  generalize (afterAll ⟨limit.toNat, none⟩ script earlier).2 = replies
  refine ⟨rfl, succeeds_prompt_iff request none, fun text document path records => ?_,
    fun asked first => ?_, fun error unwritten => ?_⟩
  · intro isRead extracted sampled
    rw [sampled]
    exact Value.writable_passesToRecords.of_sample (Json.writable_of_read isRead) extracted
  · rcases ask_course first none allowed replies with ⟨outcome, rejected, decision, done, course⟩
    have atMost := (Int.le_toNat (by omega)).1 course.prompts_length.2
    refine ⟨outcome, rejected, decision, ?_, course, ⟨course.prompts_length.1, atMost⟩,
      fun _ => course.acceptable, ?_⟩ <;> simp only [Completion.request, done]
  · simp only [Completion.request, ask_of_unwritten unwritten allowed, and_self]

/-- The provider fails once, gives a plan, and then says nothing. The first request needs both of its
attempts. The second one gets what is left and ends with its first attempt. -/
theorem Completion.request_takes_course_after_failure :
    let plan :=
      "\x7b\"planVersion\":\"1.0\",\"source\":\x7b\"recordPath\":\"/items\"\x7d,\"steps\":[]\x7d"
    let request : Request := ⟨some "list", [], [⟨"/items", 2, 1, true, 1⟩]⟩
    let script : List Reply := [.failed (.plain "quota"), .text (some plan), .text none]
    ∃ source, Completion.ofLimit? 2 = some source ∧
      let reached := source.afterAll script [request]
      reached.1.lastError.map ProposalError.message = some "quota" ∧ reached.2.length = 1 ∧
        ∃ asked outcome rejected decision,
          prompt request none = .ok asked ∧
            (reached.1.request request reached.2).1 = .ok outcome ∧
            Course request asked none 2 reached.2 rejected decision outcome ∧
            outcome.prompts.length = 1 ∧
            outcome.lastError.map ProposalError.category = some .emptyResponse := by
  intro plan request script
  rcases request_takes_course (show (1 : Int) ≤ 2 by decide) with ⟨source, allowed, takesCourse⟩
  cases allowed
  have came :
      let reached := Completion.afterAll ⟨Int.toNat 2, none⟩ script [request]
      reached.1.lastError.map ProposalError.message = some "quota" ∧ reached.2.length = 1 ∧
        ((reached.1.request request reached.2).1.toOption.map fun outcome =>
            (outcome.prompts.length, outcome.lastError.map ProposalError.category)) =
          some (1, some .emptyResponse) := by
    decide +kernel
  have taken := takesCourse script [request] request
  refine ⟨_, rfl, ?_⟩
  dsimp only at came taken ⊢
  generalize Completion.afterAll ⟨Int.toNat 2, none⟩ script [request] = reached at came taken ⊢
  rcases taken with ⟨_, written, _, course, _⟩
  have writable : request.sample.Writable ∧
      ∀ candidate ∈ request.candidates.take listedCandidates,
        Decimal.Writable candidate.arrayLength := by
    refine ⟨(Value.writable_obj_iff _).2 nofun, ?_⟩
    rintro candidate (_ | ⟨_, ⟨⟩⟩)
    decide +kernel
  rcases written.2 writable with ⟨asked, first⟩
  rcases course asked first with ⟨outcome, rejected, decision, done, takes, _⟩
  rw [done] at came
  rcases came with ⟨failedFirst, oneLeft, last⟩
  rcases Prod.mk.inj (Option.some.inj last) with ⟨oneAttempt, category⟩
  exact ⟨failedFirst, oneLeft, asked, outcome, rejected, decision, first, done, takes, oneAttempt,
    category⟩

end RowPlan.Proposal
