import RowPlan.Proofs.Preview
import RowPlan.Proofs.Proposal.DefaultPath

/-!
# Previews of a plan from a fixed source

A plan that does not say where its records are can be given explicitly, or by a source that always
offers it. Given explicitly it gets the pointer that was asked for, or else that of the chosen
records. A source is not told what was asked for: its plan gets the pointer of the first candidate.
So the two previews agree when the first candidate has the pointer that the explicit plan gets;
otherwise the plan runs on the first candidate, or, where the pointer of that one leads to no array,
a template takes its place. On records other than those of the explicit plan a text may be lacking, and
then there is no second preview.
-/

namespace RowPlan

namespace Discovery

/-- The pointer of the first candidate. -/
def firstPath? (discovery : Discovery) : Option String :=
  discovery.plainCandidates.head?.map (·.path)

theorem firstPath_ne_empty
    {document : Value} {goal : String} {maxDepth : Int} {path : String}
    (first : (run document goal maxDepth).firstPath? = some path) :
    path ≠ "" := by
  rcases Option.map_eq_some_iff.1 first with ⟨candidate, atHead, rfl⟩
  rcases List.mem_map.1 (List.mem_of_head? atHead) with ⟨scored, member, rfl⟩
  rcases mem_ranked_iff.1 member with ⟨found, foundMember, rfl⟩
  rcases Candidate.exists_place_of_mem_all foundMember with ⟨keys, items, _, made⟩
  rw [made]
  exact Pointer.join_ne_empty keys

/-- An array is its own first candidate, and it is chosen. -/
theorem run_arr
    (items : List Value) (goal : String) (maxDepth : Int) :
    (run (.arr items) goal maxDepth).firstPath? = some Pointer.root ∧
      (run (.arr items) goal maxDepth).recordPath? = some Pointer.root := by
  have alone :
      ranked (.arr items) goal maxDepth =
        [⟨Candidate.ofArray Pointer.root items,
          (Candidate.ofArray Pointer.root items).score (Goal.words goal)⟩] := by
    rw [ranked, Candidate.all, Candidate.below]
    exact List.mergeSort_singleton _
  have chosen (best : ScoredCandidate) (eligible : best.candidate.isEligible = true) :
      choose (.arr items) [best] = .ok best := by
    simp [choose, isContainer, eligible]
  constructor
  · rw [firstPath?, plainCandidates, run, alone]
    rfl
  · rw [recordPath?, run, alone]
    dsimp only
    rw [chosen _ rfl]
    rfl

end Discovery

namespace Preview

theorem pointsAtArray_iff
    {document : Value} {path : String} :
    pointsAtArray document path = true ↔
      ∃ items, Pointer.resolve document path = some (.arr items) := by
  rw [pointsAtArray]
  split
  · rename_i items found
    simp [found]
  · rename_i notArray
    simp only [Bool.false_eq_true, false_iff, not_exists]
    exact notArray

/-- There are records where a pointer names an array. -/
theorem extract_of_pointsAtArray
    {document : Value} {path : String} (array : pointsAtArray document path = true) :
    ∃ records, Records.extract document path = .ok records := by
  rcases pointsAtArray_iff.1 array with ⟨items, found⟩
  rw [Records.extract]
  split
  · rename_i whole
    rw [Pointer.resolve, Pointer.split, if_pos whole] at found
    cases found
    exact ⟨_, rfl⟩
  · rw [found]
    exact ⟨_, rfl⟩

section Routes

variable {document : Value} {goal hint : Option String} {settings : Settings} {members : Row}

/-- The preview of a plan that is given explicitly. -/
abbrev Request.explicitly (document : Value) (goal hint : Option String) (members : Row) : Request :=
  ⟨document, goal, some (.written (.obj members)), none, hint⟩

/-- The preview of a plan that a source offers. -/
abbrev Request.bySource (document : Value) (goal hint : Option String) (members : Row) : Request :=
  ⟨document, goal, none, some (Proposal.Source.fixed (.obj members)), hint⟩

theorem settle_explicitly (discovery : Discovery) :
    settle (.explicitly document goal hint members) discovery =
      match Proposal.load (.obj members)
          ((Request.explicitly document goal hint members).defaultPath? discovery) with
      | .ok plan => .ok (.ok (some plan, plan.recordPath))
      | .error error => (refusal error).map .error := rfl

/-- An explicit plan that leads to a preview was loaded with the default pointer, and it ran. -/
theorem build_explicitly
    {discovery : Discovery} {success : Success}
    (built :
      build (.explicitly document goal hint members) discovery settings = .ok (.ok success)) :
    ∃ plan table csv,
      Proposal.load (.obj members)
          ((Request.explicitly document goal hint members).defaultPath? discovery) = .ok plan ∧
      plan.execute document settings.maxRows = .ok (.done table) ∧
      Csv.preview settings.previewRows table.rows = .ok csv ∧
      success = ⟨⟨plan, .explicit, plan.recordPath⟩, table.rows, csv, table.warnings⟩ := by
  rcases build_eq_ok_iff.1 built with ⟨explicit, recordPath, records, chose, extracted, proceeded⟩
  rw [settle_explicitly] at chose
  cases loaded :
      Proposal.load (.obj members)
        ((Request.explicitly document goal hint members).defaultPath? discovery) with
  | error error =>
      rw [loaded] at chose
      cases refused : refusal error <;> simp [refused, Except.map] at chose
  | ok plan =>
      rw [loaded] at chose
      cases chose
      have valid : plan.Valid := ((Plan.load_eq_ok_iff _ _).1 (Proposal.load_eq_ok_iff.1 loaded)).2
      have runs : Chosen.Runs ⟨plan, .explicit, plan.recordPath⟩ document :=
        ⟨valid, rfl, records, extracted⟩
      rw [proceed_of_runs rfl runs, runs.concluded_eq_ok_iff] at proceeded
      rcases proceeded with ⟨table, csv, done, shown, same⟩
      cases same
      exact ⟨plan, table, csv, rfl, done, shown, rfl⟩

/-- A pointer by default says something. -/
theorem Request.defaultPath_ne_empty
    {request : Request} {path : String}
    (placed : request.defaultPath? (request.discovery settings) = some path) :
    path ≠ "" := by
  rw [defaultPath?] at placed
  cases hinted : request.hint? with
  | some hint =>
      rw [hinted] at placed
      cases placed
      exact hint_ne_empty hinted
  | none =>
      rw [hinted] at placed
      change (request.discovery settings).recordPath? = some path at placed
      rw [Discovery.recordPath?, Option.map_eq_some_iff] at placed
      rcases placed with ⟨best, chosen, rfl⟩
      cases found : (request.discovery settings).chosen with
      | error error =>
          rw [found] at chosen
          cases chosen
      | ok other =>
          rw [found] at chosen
          cases chosen
          rcases Discovery.chosen_eq_ofArray found with ⟨keys, items, made⟩
          rw [made]
          exact Pointer.join_ne_empty keys

/-- An explicit plan without a pointer that runs on an array has a pointer by default. -/
theorem exists_defaultPath
    (leavesOut : Proposal.LeavesOutPath members) {plan : Plan}
    (loaded :
      Proposal.load (.obj members)
          ((Request.explicitly document goal hint members).defaultPath?
            ((Request.explicitly document goal hint members).discovery settings)) = .ok plan)
    (array : pointsAtArray document plan.recordPath = true) :
    (Request.explicitly document goal hint members).defaultPath?
        ((Request.explicitly document goal hint members).discovery settings) =
      some plan.recordPath := by
  cases placed :
      (Request.explicitly document goal hint members).defaultPath?
        ((Request.explicitly document goal hint members).discovery settings) with
  | some path =>
      rw [placed] at loaded
      have given := Request.defaultPath_ne_empty placed
      rw [((Proposal.load_default_eq_ok_iff leavesOut.given given).1 loaded).2.1]
  | none =>
      -- Only the whole document is left then, and as an array it would have been found.
      rw [placed] at loaded
      rw [Proposal.recordPath_of_load_none leavesOut loaded] at array
      rcases pointsAtArray_iff.1 array with ⟨items, whole⟩
      cases whole
      have found := (Discovery.run_arr items (goal.getD "") settings.discoveryMaxDepth).2
      rw [Request.defaultPath?, Request.discovery, found] at placed
      cases hinted : (Request.explicitly (.arr items) goal hint members).hint? with
      | some path =>
          rw [hinted] at placed
          cases placed
      | none =>
          rw [hinted] at placed
          cases placed

/-- A preview with a source looks for its records where an explicit plan would get its pointer. -/
theorem settle_bySource
    {discovery : Discovery} {path : String}
    (placed :
      (Request.explicitly document goal hint members).defaultPath? discovery = some path) :
    settle (.bySource document goal hint members) discovery = .ok (.ok (none, path)) := by
  rw [Request.defaultPath?] at placed
  have sameHint :
      (Request.bySource document goal hint members).hint? =
        (Request.explicitly document goal hint members).hint? := rfl
  rw [settle, sameHint]
  cases hinted : (Request.explicitly document goal hint members).hint? with
  | some path =>
      rw [hinted] at placed
      cases placed
      rfl
  | none =>
      rw [hinted] at placed
      change discovery.recordPath? = some path at placed
      rw [Discovery.recordPath?] at placed
      cases found : discovery.chosen with
      | ok best =>
          rw [found] at placed
          cases placed
          rfl
      | error error =>
          rw [found] at placed
          cases placed

theorem choose_bySource
    (discovery : Discovery) (path : String) (sample : Row) (fallback : Chosen) :
    choose (.bySource document goal hint members) discovery none path sample fallback =
      fromSource document (.ofExcept (Proposal.load (.obj members) discovery.firstPath?)) >>=
        fun offered =>
          match offered.1 with
          | some plan => .ok (⟨plan, .source, plan.recordPath⟩, offered.2)
          | none => .ok (fallback, offered.2) := rfl

/-- A plan that the first candidate can take runs there. -/
theorem choose_bySource_first
    {discovery : Discovery} {first : String} (atFirst : discovery.firstPath? = some first)
    {plan : Plan} (loaded : Proposal.load (.obj members) (some first) = .ok plan)
    (samePath : plan.recordPath = first) (array : pointsAtArray document first = true)
    (path : String) (sample : Row) (fallback : Chosen) :
    choose (.bySource document goal hint members) discovery none path sample fallback =
      .ok (⟨plan, .source, first⟩, []) := by
  rw [choose_bySource, atFirst, loaded]
  change fromSource document (.plan plan) >>= _ = _
  rw [fromSource, samePath, if_pos array]
  change Except.ok _ = _
  rw [samePath]

/-- Otherwise the plan gives way to the template. -/
theorem choose_bySource_fallback
    {discovery : Discovery}
    (noArray :
      ∀ plan, Proposal.load (.obj members) discovery.firstPath? = .ok plan →
        pointsAtArray document plan.recordPath = false)
    (judged :
      (∃ plan, Proposal.load (.obj members) discovery.firstPath? = .ok plan) ∨
        ∃ problems, Proposal.load (.obj members) discovery.firstPath? = .error (.refused problems))
    (path : String) (sample : Row) (fallback : Chosen) :
    ∃ notes,
      choose (.bySource document goal hint members) discovery none path sample fallback =
        .ok (fallback, notes) := by
  rw [choose_bySource]
  rcases judged with ⟨plan, loaded⟩ | ⟨problems, refused⟩
  · rw [loaded]
    change ∃ notes, fromSource document (.plan plan) >>= _ = _
    rw [fromSource, noArray plan loaded]
    exact ⟨_, rfl⟩
  · rw [refused]
    exact ⟨_, rfl⟩

/-- Without an array at the pointer of the first candidate the offered plan points at none. -/
theorem offered_not_at_array
    (leavesOut : Proposal.LeavesOutPath members)
    (noArray :
      ∀ first,
        ((Request.explicitly document goal hint members).discovery settings).firstPath? = some first →
          pointsAtArray document first = false)
    {plan : Plan}
    (loaded :
      Proposal.load (.obj members)
          ((Request.explicitly document goal hint members).discovery settings).firstPath? = .ok plan) :
    pointsAtArray document plan.recordPath = false := by
  cases first :
      ((Request.explicitly document goal hint members).discovery settings).firstPath? with
  | some path =>
      rw [first] at loaded
      have given := Discovery.firstPath_ne_empty first
      rw [((Proposal.load_default_eq_ok_iff leavesOut.given given).1 loaded).2.1]
      exact noArray path first
  | none =>
      rw [first] at loaded
      rw [Proposal.recordPath_of_load_none leavesOut loaded]
      by_contra array
      rw [Bool.not_eq_false, pointsAtArray_iff] at array
      rcases array with ⟨items, whole⟩
      cases whole
      cases first.symm.trans
        (Discovery.run_arr items (goal.getD "") settings.discoveryMaxDepth).1

/-- Where the first candidate leads to an array, the offered plan runs on it. -/
theorem build_bySource_first
    (plan : Plan) (leftOut : Proposal.hasRecordPath members = false)
    (placed :
      (Request.explicitly document goal hint members).defaultPath?
          ((Request.explicitly document goal hint members).discovery settings) =
        some plan.recordPath)
    (loaded : Proposal.load (.obj members) (some plan.recordPath) = .ok plan)
    (array : pointsAtArray document plan.recordPath = true) {first : String}
    (atFirst :
      ((Request.explicitly document goal hint members).discovery settings).firstPath? = some first)
    (firstArray : pointsAtArray document first = true) :
    Chosen.Runs ⟨plan.withRecordPath first, .source, first⟩ document ∧
      build (.bySource document goal hint members)
          ((Request.explicitly document goal hint members).discovery settings) settings =
        (plan.withRecordPath first).execute document settings.maxRows >>=
          conclude settings ⟨plan.withRecordPath first, .source, first⟩ [] := by
  have offered :=
    Proposal.load_other_default leftOut (Request.defaultPath_ne_empty placed)
      (Discovery.firstPath_ne_empty atFirst) loaded
  have valid := ((Plan.load_eq_ok_iff _ _).1 (Proposal.load_eq_ok_iff.1 offered)).2
  rcases extract_of_pointsAtArray array with ⟨records, extracted⟩
  rcases extract_of_pointsAtArray firstArray with ⟨firstRecords, firstExtracted⟩
  have runs : Chosen.Runs ⟨plan.withRecordPath first, .source, first⟩ document :=
    ⟨valid, rfl, firstRecords, firstExtracted⟩
  refine ⟨runs, ?_⟩
  rw [build_eq_proceed (settle_bySource placed) extracted]
  exact proceed_of_runs (choose_bySource_first atFirst offered rfl firstArray _ _ _) runs settings

/-- Where it does not, the plan of a template runs on the records of the explicit plan. -/
theorem build_bySource_template
    (wellFormed : document.WellFormed) {plan : Plan} (leavesOut : Proposal.LeavesOutPath members)
    (placed :
      (Request.explicitly document goal hint members).defaultPath?
          ((Request.explicitly document goal hint members).discovery settings) =
        some plan.recordPath)
    (loaded : Proposal.load (.obj members) (some plan.recordPath) = .ok plan)
    (array : pointsAtArray document plan.recordPath = true)
    (noArray :
      ∀ first,
        ((Request.explicitly document goal hint members).discovery settings).firstPath? = some first →
          pointsAtArray document first = false) :
    ∃ records notes,
      Records.extract document plan.recordPath = .ok records ∧
      (fromTemplate (goal.getD "") plan.recordPath (Records.sample records.rows)).Runs document ∧
      build (.bySource document goal hint members)
          ((Request.explicitly document goal hint members).discovery settings) settings =
        (fromTemplate (goal.getD "") plan.recordPath (Records.sample records.rows)).plan.execute
            document settings.maxRows >>=
          conclude settings
            (fromTemplate (goal.getD "") plan.recordPath (Records.sample records.rows)) notes := by
  have given := Request.defaultPath_ne_empty placed
  rcases extract_of_pointsAtArray array with ⟨records, extracted⟩
  have runs :
      ((Request.bySource document goal hint members).fallback plan.recordPath records).Runs document :=
    Request.fallback_runs wellFormed given extracted
  have judged :
      (∃ other,
          Proposal.load (.obj members)
            ((Request.explicitly document goal hint members).discovery settings).firstPath? =
              .ok other) ∨
        ∃ problems,
          Proposal.load (.obj members)
            ((Request.explicitly document goal hint members).discovery settings).firstPath? =
              .error (.refused problems) := by
    cases first :
        ((Request.explicitly document goal hint members).discovery settings).firstPath? with
    | none => exact Proposal.load_none_cases leavesOut.given given loaded
    | some path =>
        exact .inl ⟨_, Proposal.load_other_default leavesOut.given given
          (Discovery.firstPath_ne_empty first) loaded⟩
  rcases choose_bySource_fallback
      (fun plan loaded => offered_not_at_array leavesOut noArray loaded) judged plan.recordPath
      (Records.sample records.rows)
      (fromTemplate (goal.getD "") plan.recordPath (Records.sample records.rows)) with
    ⟨notes, picked⟩
  refine ⟨records, notes, extracted, runs, ?_⟩
  rw [build_eq_proceed (settle_bySource placed) extracted]
  exact proceed_of_runs picked runs settings

end Routes

/-- How the preview of an offered plan compares to that of the plan given explicitly, which ran
where the second one ran; `first?` is the pointer of the first candidate. -/
structure Success.Offered
    (success repeated : Success) (document : Value) (goal : String) (settings : Settings)
    (first? : Option String) : Prop where
  agrees :
    first? = some success.chosen.recordPath →
      repeated.chosen = ⟨success.chosen.plan, .source, success.chosen.recordPath⟩ ∧
      repeated.rows = success.rows ∧ repeated.csv = success.csv ∧
      repeated.warnings = success.warnings
  atFirst :
    ∀ first, first? = some first → pointsAtArray document first = true →
      repeated.chosen = ⟨success.chosen.plan.withRecordPath first, .source, first⟩
  template :
    (∀ first, first? = some first → pointsAtArray document first = false) →
      ∃ records, Records.extract document success.chosen.recordPath = .ok records ∧
        repeated.chosen =
          fromTemplate goal success.chosen.recordPath (Records.sample records.rows)
  ran :
    ∃ table, repeated.chosen.plan.execute document settings.maxRows = .ok (.done table) ∧
      repeated.rows = table.rows
  samePath :
    repeated.chosen.recordPath = success.chosen.recordPath ↔
      ∀ first, first? = some first → pointsAtArray document first = true →
        first = success.chosen.recordPath

/-- The preview of an offered plan comes to a text that is lacking: where the offered plan runs on the first
candidate, or where the plan of a template takes its place. -/
inductive OfferLacksText
    (plan : Plan) (document : Value) (goal : String) (settings : Settings)
    (first? : Option String) : Prop where
  | atFirst {first} :
      first? = some first → pointsAtArray document first = true →
      Plan.LacksText (plan.withRecordPath first) document settings →
      OfferLacksText plan document goal settings first?
  | template {records} :
      (∀ first, first? = some first → pointsAtArray document first = false) →
      Records.extract document plan.recordPath = .ok records →
      Plan.LacksText (fromTemplate goal plan.recordPath (Records.sample records.rows)).plan document
        settings →
      OfferLacksText plan document goal settings first?

section Comparison

variable {document : Value} {goal : String} {settings : Settings} {first? : Option String}

theorem offerLacksText_atFirst_iff
    {plan : Plan} {first : String} (atFirst : first? = some first)
    (firstArray : pointsAtArray document first = true) :
    OfferLacksText plan document goal settings first? ↔
      Plan.LacksText (plan.withRecordPath first) document settings := by
  constructor
  · rintro (⟨same, _, lacking⟩ | ⟨noArray, _, _⟩)
    · cases atFirst.symm.trans same
      exact lacking
    · cases (noArray first atFirst).symm.trans firstArray
  · exact .atFirst atFirst firstArray

theorem offerLacksText_template_iff
    {plan : Plan} {records : Records}
    (noArray : ∀ first, first? = some first → pointsAtArray document first = false)
    (extracted : Records.extract document plan.recordPath = .ok records) :
    OfferLacksText plan document goal settings first? ↔
      Plan.LacksText (fromTemplate goal plan.recordPath (Records.sample records.rows)).plan document
        settings := by
  constructor
  · rintro (⟨atFirst, firstArray, _⟩ | ⟨_, otherExtracted, lacking⟩)
    · cases (noArray _ atFirst).symm.trans firstArray
    · cases extracted.symm.trans otherExtracted
      exact lacking
  · exact .template noArray extracted

/-- A plan that runs at the first candidate is compared to the same plan at its own pointer. -/
theorem offered_onFirst
    {plan : Plan} {table firstTable : Table} {csv firstCsv : String} {first : String}
    (done : plan.execute document settings.maxRows = .ok (.done table))
    (shown : Csv.preview settings.previewRows table.rows = .ok csv)
    (atFirst : first? = some first) (firstArray : pointsAtArray document first = true)
    (firstDone :
      (plan.withRecordPath first).execute document settings.maxRows = .ok (.done firstTable))
    (firstShown : Csv.preview settings.previewRows firstTable.rows = .ok firstCsv) :
    Success.Offered
      ⟨⟨plan, .explicit, plan.recordPath⟩, table.rows, csv, table.warnings⟩
      ⟨⟨plan.withRecordPath first, .source, first⟩, firstTable.rows, firstCsv,
        firstTable.warnings⟩
      document goal settings first? where
  agrees same := by
    cases atFirst.symm.trans same
    cases firstDone.symm.trans done
    cases firstShown.symm.trans shown
    exact ⟨rfl, rfl, rfl, rfl⟩
  atFirst other same _ := by
    cases atFirst.symm.trans same
    rfl
  template noArray := by cases (noArray first atFirst).symm.trans firstArray
  ran := ⟨firstTable, firstDone, rfl⟩
  samePath := by
    constructor
    · intro samePath other same _
      cases atFirst.symm.trans same
      exact samePath
    · intro onlyThere
      exact onlyThere first atFirst firstArray

/-- A template runs where the explicit plan ran if the first candidate is no array. -/
theorem offered_template
    {success : Success} {records : Records} {table : Table} {csv : String} {warnings : List String}
    (array : pointsAtArray document success.chosen.recordPath = true)
    (noArray : ∀ first, first? = some first → pointsAtArray document first = false)
    (extracted : Records.extract document success.chosen.recordPath = .ok records)
    (done :
      (fromTemplate goal success.chosen.recordPath (Records.sample records.rows)).plan.execute
        document settings.maxRows = .ok (.done table)) :
    success.Offered
      ⟨fromTemplate goal success.chosen.recordPath (Records.sample records.rows), table.rows, csv,
        warnings⟩
      document goal settings first? where
  agrees same := by cases (noArray _ same).symm.trans array
  atFirst first atFirst firstArray := by cases (noArray first atFirst).symm.trans firstArray
  template _ := ⟨records, extracted, rfl⟩
  ran := ⟨table, done, rfl⟩
  samePath := by
    constructor
    · intro _ first atFirst firstArray
      cases (noArray first atFirst).symm.trans firstArray
    · intro _
      rfl

end Comparison

/-- What comes of an offered plan, next to the preview of the plan given explicitly. -/
theorem build_bySource
    {document : Value} (wellFormed : document.WellFormed) {goal hint : Option String}
    {settings : Settings} {members : Row} (leavesOut : Proposal.LeavesOutPath members)
    {plan : Plan} {table : Table} {csv : String} {first? : Option String} {success : Success}
    (isFirst :
      ((Request.explicitly document goal hint members).discovery settings).firstPath? = first?)
    (placed :
      (Request.explicitly document goal hint members).defaultPath?
          ((Request.explicitly document goal hint members).discovery settings) =
        some plan.recordPath)
    (loaded : Proposal.load (.obj members) (some plan.recordPath) = .ok plan)
    (array : pointsAtArray document plan.recordPath = true)
    (done : plan.execute document settings.maxRows = .ok (.done table))
    (shown : Csv.preview settings.previewRows table.rows = .ok csv)
    (made : success = ⟨⟨plan, .explicit, plan.recordPath⟩, table.rows, csv, table.warnings⟩)
    {outcome : Except StepError (Except Failure Success)}
    (built :
      build (.bySource document goal hint members)
          ((Request.explicitly document goal hint members).discovery settings) settings =
        outcome) :
    Outcome.FailsFor outcome (.text .tooManyDigits)
        (OfferLacksText plan document (goal.getD "") settings first?) ∧
      (first? = some plan.recordPath → Outcome.Succeeds outcome) ∧
      ∀ result, outcome = .ok result → ∃ repeated, result = .ok repeated ∧
        success.Offered repeated document (goal.getD "") settings first? := by
  subst made
  by_cases onFirst : ∃ first, first? = some first ∧ pointsAtArray document first = true
  · rcases onFirst with ⟨first, atFirst, firstArray⟩
    rcases build_bySource_first plan leavesOut.given placed loaded array (isFirst.trans atFirst)
      firstArray with ⟨runs, rebuilt⟩
    rw [← built, rebuilt]
    refine ⟨?_, fun same => ?_, fun result concluded => ?_⟩
    · exact runs.concluded_fails.congr (offerLacksText_atFirst_iff atFirst firstArray).symm
    · cases atFirst.symm.trans same
      exact ⟨_, runs.concluded_eq_ok_iff.2 ⟨table, csv, done, shown, rfl⟩⟩
    · rcases runs.concluded_eq_ok_iff.1 concluded with ⟨firstTable, firstCsv, firstDone, firstShown, rfl⟩
      exact ⟨_, rfl, offered_onFirst done shown atFirst firstArray firstDone firstShown⟩
  · have noArray (first : String) (atFirst : first? = some first) :
        pointsAtArray document first = false := by
      by_contra firstArray
      exact onFirst ⟨first, atFirst, by simpa using firstArray⟩
    have noArrayFirst (first : String) (atFirst : _ = some first) :=
      noArray first (isFirst.symm.trans atFirst)
    rcases build_bySource_template wellFormed leavesOut placed loaded array noArrayFirst with
      ⟨records, notes, extracted, runs, rebuilt⟩
    rw [← built, rebuilt]
    refine ⟨?_, fun same => ?_, fun result concluded => ?_⟩
    · exact runs.concluded_fails.congr (offerLacksText_template_iff noArray extracted).symm
    · cases (noArray _ same).symm.trans array
    · rcases runs.concluded_eq_ok_iff.1 concluded with ⟨otherTable, otherCsv, otherDone, _, rfl⟩
      exact ⟨_, rfl, offered_template array noArray extracted otherDone⟩

/--
Where an explicit plan that does not say where its records are leads to a preview of an array, the
plan is previewed when a fixed source offers it as well, unless a text is lacking on the records that it
gets there. The two previews are about the same records, with the same rows, if the first candidate has the
pointer that the explicit plan got, and then the second one is there. Otherwise the offered plan runs on the
first candidate, and if the pointer of that one names no array, the plan of a template runs on the records of
the explicit plan.
-/
theorem run_fixed_source
    {document : Value} (wellFormed : document.WellFormed) {goal hint : Option String}
    {settings : Settings} {members : Row} (leavesOut : Proposal.LeavesOutPath members)
    {preview : Preview} {success : Success}
    (ran :
      run ⟨document, goal, some (.written (.obj members)), none, hint⟩ settings = .ok preview)
    (succeeded : preview.result = .ok success)
    (array : pointsAtArray document success.chosen.recordPath = true) :
    let second :=
      run ⟨document, goal, none, some (Proposal.Source.fixed (.obj members)), hint⟩ settings
    Outcome.FailsFor second (.text .tooManyDigits)
        (OfferLacksText success.chosen.plan document (goal.getD "") settings
          preview.discovery.firstPath?) ∧
      (preview.discovery.firstPath? = some success.chosen.recordPath → Outcome.Succeeds second) ∧
      ∀ again, second = .ok again → ∃ repeated, again.result = .ok repeated ∧
        success.Offered repeated document (goal.getD "") settings preview.discovery.firstPath? := by
  rcases Outcome.map_eq_ok_iff.1 ran with ⟨result, built, rfl⟩
  cases succeeded
  rcases build_explicitly built with ⟨plan, table, csv, loaded, done, shown, made⟩
  have samePlan : success.chosen.plan = plan := by rw [made]
  have samePath : success.chosen.recordPath = plan.recordPath := by rw [made]
  rw [samePath] at array
  rw [samePlan, samePath]
  have placed := exists_defaultPath leavesOut loaded array
  have loadedThere : Proposal.load (.obj members) (some plan.recordPath) = .ok plan := by
    rw [← placed]
    exact loaded
  rcases build_bySource wellFormed leavesOut rfl placed loadedThere array done shown made rfl with
    ⟨fails, succeeds, offers⟩
  refine ⟨fails.map _, fun same => Outcome.succeeds_map_iff.2 (succeeds same), fun again ranAgain => ?_⟩
  rcases Outcome.map_eq_ok_iff.1 ranAgain with ⟨repeated, rebuilt, rfl⟩
  exact offers repeated rebuilt

/-- There is one candidate only, and it is where the records are asked for. -/
theorem run_fixed_source_items :
    let document : Value := .obj [("items", .arr [.obj [("k", .ofNat 1)], .obj [("k", .ofNat 2)]])]
    let members : Row :=
      [("planVersion", .str "1.0"), ("steps", .arr [.obj [("op", .str "limit"), ("n", .ofNat 1)]])]
    document.WellFormed ∧ Proposal.LeavesOutPath members ∧
      ∃ preview success again repeated,
        run ⟨document, none, some (.written (.obj members)), none, some "/items"⟩ Settings.default =
          .ok preview ∧
        preview.result = .ok success ∧
        pointsAtArray document success.chosen.recordPath = true ∧
        run ⟨document, none, none, some (Proposal.Source.fixed (.obj members)), some "/items"⟩
            Settings.default = .ok again ∧
        again.result = .ok repeated ∧
        repeated.chosen.recordPath = "/items" ∧ repeated.rows = [[("k", .ofNat 1)]] := by
  intro document members
  have wellFormed : document.WellFormed := by simp [document, Value.ofNat]
  have leavesOut : Proposal.LeavesOutPath members := by
    refine ⟨rfl, ?_⟩
    intro source given
    have absent : members.find? "source" = none := rfl
    rw [absent] at given
    cases given
  let request : Request := ⟨document, none, some (.written (.obj members)), none, some "/items"⟩
  let plan : Plan := ⟨"1.0", "/items", [.limit (some 1)]⟩
  have built :
      build request (request.discovery Settings.default) Settings.default =
        .ok (.ok ⟨⟨plan, .explicit, "/items"⟩, [[("k", .ofNat 1)]], "k\r\n1\r\n", []⟩) := by rfl
  have ran :
      run request Settings.default =
        .ok ⟨request.discovery Settings.default, _⟩ :=
    Outcome.bind_eq_ok_iff.2 ⟨_, built, rfl⟩
  have first : (request.discovery Settings.default).firstPath? = some "/items" := by
    have alone :
        Discovery.ranked document "" Settings.default.discoveryMaxDepth =
          [⟨Candidate.ofArray "/items" [.obj [("k", .ofNat 1)], .obj [("k", .ofNat 2)]], _⟩] :=
      List.mergeSort_singleton _
    rw [Discovery.firstPath?, Discovery.plainCandidates]
    change ((Discovery.ranked document "" Settings.default.discoveryMaxDepth).map _).head?.map _ = _
    rw [alone]
    rfl
  have array : pointsAtArray document "/items" = true := pointsAtArray_iff.2 ⟨_, by rfl⟩
  rcases run_fixed_source wellFormed leavesOut ran rfl array with ⟨_, succeeds, offers⟩
  rcases succeeds first with ⟨again, ranAgain⟩
  rcases offers again ranAgain with ⟨repeated, result, offered⟩
  rcases offered.agrees first with ⟨chosen, rows, _⟩
  exact ⟨wellFormed, leavesOut, _, _, again, repeated, ran, rfl, array, ranAgain, result,
    by rw [chosen], rows⟩

/-- A source is not told where the records are asked for, and its plan runs on the first candidate. -/
theorem run_fixed_source_elsewhere :
    let document : Value :=
      .obj [("a", .arr [.obj [("k", .ofNat 1)], .obj [("k", .ofNat 2)], .obj [("k", .ofNat 3)]]),
        ("b", .arr [.obj [("k", .ofNat 9)]])]
    let members : Row :=
      [("planVersion", .str "1.0"), ("steps", .arr [.obj [("op", .str "limit"), ("n", .ofNat 1)]])]
    Proposal.LeavesOutPath members ∧
      ∃ preview success again repeated,
        run ⟨document, none, some (.written (.obj members)), none, some "/b"⟩ Settings.default =
          .ok preview ∧
        preview.result = .ok success ∧
        pointsAtArray document success.chosen.recordPath = true ∧
        success.chosen.recordPath = "/b" ∧ success.rows = [[("k", .ofNat 9)]] ∧
        run ⟨document, none, none, some (Proposal.Source.fixed (.obj members)), some "/b"⟩
            Settings.default = .ok again ∧
        again.result = .ok repeated ∧
        repeated.chosen.recordPath = "/a" ∧ repeated.rows = [[("k", .ofNat 1)]] := by
  intro document members
  let request : Request := ⟨document, none, some (.written (.obj members)), none, some "/b"⟩
  have built :
      build request (request.discovery Settings.default) Settings.default =
        .ok (.ok ⟨⟨⟨"1.0", "/b", [.limit (some 1)]⟩, .explicit, "/b"⟩, [[("k", .ofNat 9)]],
          "k\r\n9\r\n", []⟩) := by rfl
  have array : pointsAtArray document "/b" = true := pointsAtArray_iff.2 ⟨_, by rfl⟩
  have firstArray : pointsAtArray document "/a" = true := pointsAtArray_iff.2 ⟨_, by rfl⟩
  have first : (request.discovery Settings.default).firstPath? = some "/a" := by
    have inOrder :
        Discovery.ranked document "" Settings.default.discoveryMaxDepth =
          (Candidate.all document Settings.default.discoveryMaxDepth).map fun candidate =>
            ⟨candidate, candidate.score (Goal.words "")⟩ :=
      List.mergeSort_of_pairwise (by decide +kernel)
    change ((Discovery.ranked document "" Settings.default.discoveryMaxDepth).map _).head?.map _ = _
    rw [inOrder]
    rfl
  have loaded :
      Proposal.load (.obj members) (some "/b") = .ok ⟨"1.0", "/b", [.limit (some 1)]⟩ := by rfl
  have placed : request.defaultPath? (request.discovery Settings.default) = some "/b" := rfl
  rcases build_bySource_first ⟨"1.0", "/b", [.limit (some 1)]⟩ rfl placed loaded array first
    firstArray with ⟨runs, rebuilt⟩
  rw [runs.concluded_eq_ok_iff.2 ⟨⟨[[("k", .ofNat 1)]], []⟩, "k\r\n1\r\n", by rfl, by rfl, rfl⟩]
    at rebuilt
  exact ⟨⟨rfl, nofun⟩, _, _, _, _, Outcome.bind_eq_ok_iff.2 ⟨_, built, rfl⟩, rfl, array, rfl, rfl,
    Outcome.bind_eq_ok_iff.2 ⟨_, rebuilt, rfl⟩, rfl, rfl, rfl⟩

end Preview

end RowPlan
