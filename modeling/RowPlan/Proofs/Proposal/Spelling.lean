import RowPlan.Proofs.Pointer
import RowPlan.Proofs.Proposal.Attempts

/-!
# Spellings of a pointer

Pointers with the same segments lead to the same place, however they are spelled. One of the spellings is
the one that joining the segments gives. A source takes a plan only if its pointer is the very text of a
candidate's, so a plan with another spelling is turned down for good. Where the candidates are named by
joined segments, the plans for their places that are taken are those with joined pointers.
-/

namespace RowPlan

namespace Pointer

/-- A pointer that is spelled as its segments are joined. -/
def Canonical (path : String) : Prop := join (split path) = path

instance (path : String) : Decidable (Canonical path) :=
  inferInstanceAs (Decidable (join (split path) = path))

/-- A place has one canonical pointer. -/
theorem Canonical.eq_of_split_eq
    {path other : String} (canonical : Canonical path) (otherCanonical : Canonical other)
    (samePlace : split path = split other) :
    path = other :=
  calc
    path = join (split path) := canonical.symm
    _ = join (split other) := congrArg join samePlace
    _ = other := otherCanonical

end Pointer

namespace Proposal

/-! ## The reply that decides -/

/-- A reply that is rejected by an error that another attempt may mend. -/
def Mendable (request : Request) (reply : Reply) : Prop :=
  ∃ error, judge request reply = .error error ∧ error.category.isRetryable = true

/-- After replies that other attempts may mend, a reply that they may not mend decides. -/
theorem ask_append
    {request : Request} {asked : String} (first : prompt request none = .ok asked)
    {earlier : List Reply} (mendable : ∀ reply ∈ earlier, Mendable request reply)
    {reply : Reply} (final : ¬ Mendable request reply) (later : List Reply) {limit : Nat}
    (allowed : earlier.length < limit) (before : Option ProposalError) :
    ∃ outcome, ask request before limit (earlier ++ reply :: later) = .ok outcome ∧
      outcome.plan = (judge request reply).toOption := by
  induction earlier generalizing before limit with
  | nil =>
      cases limit with
      | zero => cases allowed
      | succ limit =>
          have decides : judgement request (reply :: later) 0 = judge request reply := rfl
          rw [List.nil_append, ask_succ first, decides]
          cases judged : judge request reply with
          | ok plan => exact ⟨_, rfl, rfl⟩
          | error error =>
              have notRetryable : ¬ error.category.isRetryable = true :=
                fun retryable => final ⟨error, judged, retryable⟩
              simp only [notRetryable]
              exact ⟨_, rfl, rfl⟩
  | cons other rest others =>
      rw [List.forall_mem_cons] at mendable
      rcases mendable with ⟨⟨error, judged, retryable⟩, restMendable⟩
      cases limit with
      | zero => cases allowed
      | succ limit =>
          have restAllowed : rest.length < limit := Nat.lt_of_succ_lt_succ allowed
          have rejects : judgement request (other :: (rest ++ reply :: later)) 0 = .error error := judged
          rcases others restMendable restAllowed (some error) with ⟨outcome, done, planned⟩
          rw [List.cons_append, ask_succ first, rejects]
          simp only [retryable, if_true, List.tail_cons, done]
          exact ⟨_, rfl, planned⟩

/-- The pointers of the candidates. -/
def Request.knownPaths (request : Request) : List String := request.candidates.map (·.path)

/-- If there are candidates, the plan in a reply is judged by its pointer. -/
theorem judge_text
    {request : Request} (candidates : request.candidates ≠ []) {text : Option String} {plan : Plan}
    (read : loadText text request.defaultPath? = .ok plan) :
    judge request (.text text) =
      if plan.recordPath ∈ request.knownPaths then .ok plan
      else .error (.unknownPath plan.recordPath request.knownPaths) := by
  have some : request.knownPaths.isEmpty = false := by
    simpa [Request.knownPaths] using candidates
  rw [judge, read]
  show checkPath request.candidates plan = _
  by_cases known : plan.recordPath ∈ request.knownPaths
  · have contained : request.knownPaths.contains plan.recordPath = true :=
      List.contains_iff_mem.2 known
    rw [if_pos known]
    exact if_pos (Bool.or_eq_true_iff.2 (Or.inr contained))
  · have notContained :
        (request.knownPaths.isEmpty || request.knownPaths.contains plan.recordPath) = false := by
      simpa [some] using known
    rw [if_neg known]
    exact if_neg (Bool.not_eq_true _ ▸ notContained)

/-- No other attempt mends an unknown pointer. -/
theorem not_mendable_text
    {request : Request} (candidates : request.candidates ≠ []) {text : Option String} {plan : Plan}
    (read : loadText text request.defaultPath? = .ok plan) :
    ¬ Mendable request (.text text) := by
  rintro ⟨error, judged, retryable⟩
  rw [judge_text candidates read] at judged
  split at judged
  · cases judged
  · cases judged
    cases retryable

/-! ## Pointers to one place -/

/-- A source that is asked for a plan comes back with this one. -/
def Completion.Takes
    (source : Completion) (request : Request) (replies : List Reply) (plan : Plan) : Prop :=
  ∃ outcome, (source.request request replies).1 = .ok outcome ∧ outcome.plan = some plan

/-- A plan is taken if the prompt can be written and its pointer is the text of a candidate's. -/
theorem Completion.takes_iff
    {source : Completion} {request : Request} (candidates : request.candidates ≠ [])
    {earlier : List Reply} (mendable : ∀ reply ∈ earlier, Mendable request reply)
    (allowed : earlier.length < source.maxAttempts) (later : List Reply)
    {text : Option String} {plan : Plan} (read : loadText text request.defaultPath? = .ok plan) :
    source.Takes request (earlier ++ .text text :: later) plan ↔
      (∃ asked, prompt request none = .ok asked) ∧ plan.recordPath ∈ request.knownPaths := by
  have requested (replies : List Reply) (outcome : Outcome) :
      (source.request request replies).1 = .ok outcome ↔
        ask request none source.maxAttempts replies = .ok outcome := by
    rw [Completion.request]
    split <;> rename_i asks <;> rw [asks]
  simp only [Takes, requested]
  cases first : prompt request none with
  | error error =>
      rw [ask_of_unwritten first (Nat.zero_lt_of_lt allowed)]
      simp
  | ok asked =>
      rcases ask_append first mendable (not_mendable_text candidates read) later allowed none with
        ⟨outcome, done, decided⟩
      rw [and_iff_right ⟨asked, rfl⟩]
      simp only [done, Except.ok.injEq, exists_eq_left', decided, judge_text candidates read]
      split
      · rename_i known
        exact iff_of_true rfl known
      · rename_i unknown
        refine iff_of_false ?_ unknown
        rintro ⟨⟩

/-- A pointer leads where a candidate is. -/
def Request.Lists (request : Request) (path : String) : Prop :=
  ∃ candidate ∈ request.candidates, Pointer.split candidate.path = Pointer.split path

/-- Of the pointers to canonically named candidates, the canonical ones are known. -/
theorem Request.mem_knownPaths_iff
    {request : Request}
    (canonical : ∀ candidate ∈ request.candidates, Pointer.Canonical candidate.path)
    (path : String) :
    path ∈ request.knownPaths ↔ request.Lists path ∧ Pointer.Canonical path := by
  rw [knownPaths, List.mem_map]
  constructor
  · rintro ⟨candidate, member, rfl⟩
    exact ⟨⟨candidate, member, rfl⟩, canonical candidate member⟩
  · rintro ⟨⟨candidate, member, samePlace⟩, isCanonical⟩
    exact ⟨candidate, member, (canonical candidate member).eq_of_split_eq isCanonical samePlace⟩

/--
Two replies are read as plans whose pointers lead to the same place. If there are candidates and the prompt
can be written, then both plans are taken or neither, exactly if the texts of both pointers are known or
neither. Where the candidates are canonically named, this is so exactly if none of them is at that place, or
both pointers are canonical, or neither.
-/
theorem Completion.takes_alike_iff
    {source : Completion} {request : Request} (candidates : request.candidates ≠ [])
    {earlier : List Reply} (mendable : ∀ reply ∈ earlier, Mendable request reply)
    (allowed : earlier.length < source.maxAttempts) (later later' : List Reply)
    {text text' : Option String} {plan plan' : Plan}
    (read : loadText text request.defaultPath? = .ok plan)
    (read' : loadText text' request.defaultPath? = .ok plan')
    (samePlace : Pointer.split plan.recordPath = Pointer.split plan'.recordPath) :
    let alike :=
      source.Takes request (earlier ++ .text text :: later) plan ↔
        source.Takes request (earlier ++ .text text' :: later') plan'
    (alike ↔ ((∃ asked, prompt request none = .ok asked) →
        (plan.recordPath ∈ request.knownPaths ↔ plan'.recordPath ∈ request.knownPaths))) ∧
      ((∀ candidate ∈ request.candidates, Pointer.Canonical candidate.path) →
        (alike ↔ ((∃ asked, prompt request none = .ok asked) →
          request.Lists plan.recordPath →
            (Pointer.Canonical plan.recordPath ↔ Pointer.Canonical plan'.recordPath)))) := by
  intro alike
  have judgedByText :
      alike ↔ ((∃ asked, prompt request none = .ok asked) →
        (plan.recordPath ∈ request.knownPaths ↔ plan'.recordPath ∈ request.knownPaths)) := by
    rw [← and_congr_right_iff]
    exact iff_congr (takes_iff candidates mendable allowed later read)
      (takes_iff candidates mendable allowed later' read')
  refine ⟨judgedByText, ?_⟩
  intro canonical
  have sameLists : request.Lists plan'.recordPath ↔ request.Lists plan.recordPath := by
    rw [Request.Lists, Request.Lists, samePlace]
  rw [judgedByText, Request.mem_knownPaths_iff canonical, Request.mem_knownPaths_iff canonical,
    sameLists, and_congr_right_iff]

/-- A plan without steps is told by its version and its pointer. -/
theorem loadText_stepless
    {text default : Option String} {version path : String}
    (summary :
      (loadText text default).toOption.map
        (fun plan => (plan.version, plan.recordPath, plan.steps.length)) = some (version, path, 0)) :
    loadText text default = .ok ⟨version, path, []⟩ := by
  rcases Outcome.toOption_map_eq_some_iff.1 summary with ⟨plan, read, same⟩
  rcases plan with ⟨_, _, steps⟩
  simp only [Prod.mk.injEq, List.length_eq_zero_iff] at same
  rcases same with ⟨rfl, rfl, rfl⟩
  exact read

/-- Two spellings that are no candidate's, after a failure of the provider. -/
theorem Completion.takes_alike_items :
    let request : Request := ⟨some "list", [], [⟨"/items", 2, 1, true, 1⟩, ⟨"/", 1, 1, true, 0⟩]⟩
    let earlier : List Reply := [.failed (.plain "quota")]
    let source : Completion := ⟨2, none⟩
    let text := some "\x7b\"source\": \x7b\"recordPath\": \"items\"\x7d\x7d"
    let text' := some "\x7b\"source\": \x7b\"recordPath\": \"//items/\"\x7d\x7d"
    let plan : Plan := ⟨"1.0", "items", []⟩
    let plan' : Plan := ⟨"1.0", "//items/", []⟩
    (∀ reply ∈ earlier, Mendable request reply) ∧
      (∀ candidate ∈ request.candidates, Pointer.Canonical candidate.path) ∧
        loadText text request.defaultPath? = .ok plan ∧
          loadText text' request.defaultPath? = .ok plan' ∧
            Pointer.split plan.recordPath = Pointer.split plan'.recordPath ∧
              (source.Takes request (earlier ++ [.text text]) plan ↔
                source.Takes request (earlier ++ [.text text']) plan') := by
  intro request earlier source text text' plan plan'
  have candidates : request.candidates ≠ [] := List.cons_ne_nil _ _
  have mendable : ∀ reply ∈ earlier, Mendable request reply := by
    intro reply member
    cases List.mem_singleton.1 member
    exact ⟨_, rfl, rfl⟩
  have canonical : ∀ candidate ∈ request.candidates, Pointer.Canonical candidate.path := by
    decide +kernel
  have read : loadText text request.defaultPath? = .ok plan :=
    loadText_stepless (by decide +kernel)
  have read' : loadText text' request.defaultPath? = .ok plan' :=
    loadText_stepless (by decide +kernel)
  have samePlace : Pointer.split plan.recordPath = Pointer.split plan'.recordPath := by
    decide +kernel
  have allowed : earlier.length < source.maxAttempts := by decide
  have alike := (takes_alike_iff candidates mendable allowed [] [] read read' samePlace).2 canonical
  refine ⟨mendable, canonical, read, read', samePlace, alike.2 ?_⟩
  intro _ _
  exact iff_of_false (by decide +kernel) (by decide +kernel)

/-- A plan is turned down for the spelling of its pointer. -/
theorem Completion.bare_name_not_taken :
    let request : Request := ⟨some "list", [], [⟨"/items", 2, 1, true, 1⟩]⟩
    let source : Completion := ⟨1, none⟩
    let text := some "\x7b\"source\": \x7b\"recordPath\": \"items\"\x7d\x7d"
    let text' := some "\x7b\"source\": \x7b\"recordPath\": \"/items\"\x7d\x7d"
    let plan : Plan := ⟨"1.0", "items", []⟩
    let plan' := plan.withRecordPath "/items"
    loadText text request.defaultPath? = .ok plan ∧
      loadText text' request.defaultPath? = .ok plan' ∧
        Pointer.split plan.recordPath = Pointer.split plan'.recordPath ∧
          ¬ source.Takes request [.text text] plan ∧ source.Takes request [.text text'] plan' := by
  intro request source text text' plan plan'
  have read : loadText text request.defaultPath? = .ok plan :=
    loadText_stepless (by decide +kernel)
  have read' : loadText text' request.defaultPath? = .ok plan' :=
    loadText_stepless (by decide +kernel)
  have noneEarlier : ∀ reply ∈ ([] : List Reply), Mendable request reply := nofun
  have written : ∃ asked, prompt request none = .ok asked := by
    refine (succeeds_prompt_iff request none).2 ⟨(Value.writable_obj_iff _).2 nofun, ?_⟩
    rintro candidate (_ | ⟨_, ⟨⟩⟩)
    decide +kernel
  have judged (text : Option String) {plan : Plan}
      (read : loadText text request.defaultPath? = .ok plan) :
      source.Takes request [.text text] plan ↔ plan.recordPath ∈ ["/items"] :=
    (takes_iff (List.cons_ne_nil _ _) noneEarlier Nat.one_pos [] read).trans (and_iff_right written)
  refine ⟨read, read', by decide +kernel, ?_, ?_⟩
  · rw [judged text read]
    decide
  · rw [judged text' read']
    decide

end Proposal

end RowPlan
