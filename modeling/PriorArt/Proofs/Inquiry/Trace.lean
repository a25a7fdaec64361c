import PriorArt.Proofs.Assessment.Tally
import PriorArt.Proofs.Inquiry.References

/-!
# The trace and the record of an inquiry

The trace and the metadata of a report are two records of the same decisions.

1. `Report.IsRecorded`: what the stages of an inquiry leave in both.
2. `Inquiry.Concluded`: how an inquiry comes to its counters and to the end of its trace
   (`Inquiry.concluded_of_result_eq_ok`).
3. `Report.IsAudited`: the two records agree with each other, with the outcomes in the report and
   with the replies that were got (`Inquiry.isAudited_run`).
-/

namespace PriorArt

/-- The counters of an assessment, or of as much of one as there was, are in the record. -/
structure Metadata.Counts (metadata : Metadata) (counted : AssessmentOutcome) : Prop where
  patentsAssessed : metadata.patentsAssessed = counted.assessments.length
  abstractsMissing : metadata.abstractsMissing = counted.abstractsMissing
  assessmentTruncated : metadata.assessmentTruncated = counted.truncated
  assessedNone : metadata.assessedNone = counted.assessedNone
  fallbackAssessments : metadata.fallbackAssessments = counted.fallbacks
  foreignAssessmentsDropped : metadata.foreignAssessmentsDropped = counted.foreignDropped

/-- What the stages leave in the record and in the trace of a report, with the end of the trace. -/
structure Report.IsRecorded (report : Report) (settings : RunSettings) (request : Request)
    (counted : AssessmentOutcome) (ending : List TraceEntry) : Prop where
  handed : report.request = request.within settings.pipeline.maxDisclosure
  inputTruncated :
    report.metadata.inputTruncated = request.isOverlong settings.pipeline.maxDisclosure
  patentsRetrieved : report.metadata.patentsRetrieved = report.search.patents.length
  apiCalls : report.metadata.apiCalls = report.search.apiCalls
  searchAttempts : report.metadata.stageAttempts.lookup .search =
    some ⟨report.search.apiCalls, 0, report.search.retries⟩
  counts : report.metadata.Counts counted
  trace : report.trace =
    Inquiry.truncationTrace request.disclosure.length settings.pipeline.maxDisclosure
        (request.isOverlong settings.pipeline.maxDisclosure) ++
      Inquiry.searchTrace settings.search.maxPatents report.search ++
      Inquiry.assessmentTrace settings.assessment.maxAssessed counted ++ ending

namespace Inquiry

/-! ## The end of the trace -/

section Concluded

variable (settings : RunSettings) (request : Request) (services : Services) (clock : Clock)

/-- How an inquiry with a strategy and a search comes to the counters in its record and to the end
of its trace: the corrections of the narrative, or the failure of a stage. -/
inductive Concluded (strategy : StrategyDocument) (search : SearchOutcome) (report : Report) :
    AssessmentOutcome → List TraceEntry → Prop
  | full {assessment : AssessmentOutcome} {analysis : LandscapeAnalysis} {draft : DraftNarrative} :
      (assessed settings request services clock strategy search).1.output = .ok assessment →
      (analysed settings request services clock strategy search assessment).1.output =
        .ok analysis →
      Narrative.reconcile draft report.stats assessment.assessments =
        .ok (analysis.narrative, analysis.corrections) →
      report.IsFull strategy search assessment analysis →
      Concluded strategy search report assessment
        (analysis.corrections.map .narrativeCorrected)
  | statisticsOnly {assessment : AssessmentOutcome} {error : RunError} :
      (assessed settings request services clock strategy search).1.output = .ok assessment →
      (analysed settings request services clock strategy search assessment).1.output =
        .error error →
      report.IsStatisticsOnly strategy search assessment →
      Concluded strategy search report assessment
        [.stageDegraded .landscape report.layout error,
          .fallbackDetermination report.determination]
  | unscored {error : RunError} {counted : AssessmentOutcome} :
      (assessed settings request services clock strategy search).1.output = .error error →
      error.isCancelled = false →
      (assessed settings request services clock strategy search).1.partialOutput = some counted →
      report.IsUnscored strategy search →
      Concluded strategy search report counted
        [.stageDegraded .assessment report.layout error,
          .fallbackDetermination report.determination]

end Concluded

section Run

variable {settings : RunSettings} {request : Request} {services : Services} {clock : Clock}
  {report : Report}

section Stages

variable (ok : (run settings request services clock).result = .ok report)
  (valid : request.defect? settings.pipeline.minDisclosure = none)
  {strategy : StrategyDocument} {search : SearchOutcome}
  (planning : (planned settings request services clock).1.output = .ok strategy)
  (searching : (sought settings request services clock strategy).1 = .ok search)

include ok valid planning searching

theorem concluded_of_assessed_error {error : RunError}
    (failed : (assessed settings request services clock strategy search).1.output = .error error) :
    ∃ counted ending, report.IsRecorded settings request counted ending ∧
      Concluded settings request services clock strategy search report counted ending := by
  have kept : error ≠ .cancelled := by
    rintro rfl
    rw [run_of_assessed_cancelled valid planning searching failed rfl] at ok
    cases ok
  have distinct := (Search.isSound_of_run searching).distinct
  obtain ⟨_, _, -, tallied⟩ := Assess.tallies_of_run distinct
    (rfl : assessed settings request services clock strategy search = _) (by simpa [failed])
  rw [failed] at tallied
  obtain ⟨-, counted, counting, -⟩ := tallied
  rw [run_eq_afterAssessment valid planning searching] at ok
  unfold afterAssessment at ok
  rw [failed] at ok
  dsimp only at ok
  split at ok
  case isTrue cancelled => cases ok
  case isFalse going =>
    rw [counting] at ok
    cases ok
    refine ⟨counted, _, ?_, .unscored failed (by simpa using going) counting ?_⟩
    · exact ⟨rfl, rfl, rfl, rfl, rfl, ⟨rfl, rfl, rfl, rfl, rfl, rfl⟩, rfl⟩
    · constructor
      case heuristic => exact Determination.heuristic_fallback ..
      all_goals rfl

theorem concluded_of_assessed {assessment : AssessmentOutcome}
    (assessing :
      (assessed settings request services clock strategy search).1.output = .ok assessment) :
    ∃ counted ending, report.IsRecorded settings request counted ending ∧
      Concluded settings request services clock strategy search report counted ending := by
  rw [run_eq_afterLandscape valid planning searching assessing] at ok
  unfold afterLandscape at ok
  cases analysing :
    (analysed settings request services clock strategy search assessment).1.output with
  | ok analysis =>
    obtain ⟨draft, reconciled⟩ := Analysis.reconcile_of_run analysing
    rw [analysing] at ok
    cases ok
    refine ⟨assessment, _, ?_, .full assessing analysing reconciled ?_⟩
    · exact ⟨rfl, rfl, rfl, rfl, rfl, ⟨rfl, rfl, rfl, rfl, rfl, rfl⟩, rfl⟩
    · constructor <;> rfl
  | error error =>
    rw [analysing] at ok
    dsimp only at ok
    split at ok
    case isTrue cancelled => cases ok
    case isFalse going =>
      cases ok
      refine ⟨assessment, _, ?_, .statisticsOnly assessing analysing ?_⟩
      · exact ⟨rfl, rfl, rfl, rfl, rfl, ⟨rfl, rfl, rfl, rfl, rfl, rfl⟩, rfl⟩
      · constructor
        case heuristic => exact Determination.heuristic_fallback ..
        all_goals rfl

end Stages

/-- What an inquiry with a report leaves in its record and in its trace. -/
theorem concluded_of_result_eq_ok
    (ok : (run settings request services clock).result = .ok report) :
    ∃ counted ending, report.IsRecorded settings request counted ending ∧
      Concluded settings request services clock report.strategy report.search report counted
        ending := by
  obtain ⟨valid, strategy, search, planning, searching, completed⟩ := completed_of_result_eq_ok ok
  obtain ⟨rfl, rfl⟩ := completed.holds
  cases assessing :
    (assessed settings request services clock report.strategy report.search).1.output with
  | error error => exact concluded_of_assessed_error ok valid planning searching assessing
  | ok assessment => exact concluded_of_assessed ok valid planning searching assessing

end Run

end Inquiry

/-! ## The audit -/

/-- An entry that a trace has if something holds. -/
def TraceEntry.when (holds : Bool) (entry : TraceEntry) : List TraceEntry :=
  if holds then [entry] else []

namespace Report

/-- The trace up to its end, as the record and the search tell of it. -/
def decisions (report : Report) (settings : RunSettings) (request : Request) : List TraceEntry :=
  let metadata := report.metadata
  TraceEntry.when metadata.inputTruncated
      (.inputTruncated request.disclosure.length settings.pipeline.maxDisclosure) ++
    (report.search.capReachedBy.map (.patentCapReached · settings.search.maxPatents)).toList ++
    TraceEntry.when metadata.assessmentTruncated
      (.assessmentTruncated settings.assessment.maxAssessed) ++
    TraceEntry.when (0 < metadata.foreignAssessmentsDropped)
      (.foreignAssessmentsDropped metadata.foreignAssessmentsDropped) ++
    TraceEntry.when (0 < metadata.fallbackAssessments)
      (.fallbackAssessments metadata.fallbackAssessments)

theorem IsRecorded.trace_eq {report : Report} {settings : RunSettings} {request : Request}
    {counted : AssessmentOutcome} {ending : List TraceEntry}
    (recorded : report.IsRecorded settings request counted ending) :
    report.trace = report.decisions settings request ++ ending := by
  have counts := recorded.counts
  rw [recorded.trace, decisions, recorded.inputTruncated, counts.assessmentTruncated,
    counts.foreignAssessmentsDropped, counts.fallbackAssessments]
  unfold Inquiry.truncationTrace Inquiry.searchTrace Inquiry.assessmentTrace TraceEntry.when
  simp only [List.append_assoc, decide_eq_true_eq]
  cases report.search.capReachedBy <;> rfl

/-- The trace and the record of a report agree. -/
structure IsAudited (report : Report) (settings : RunSettings) (request : Request)
    (services : Services) (clock : Clock) (counted : AssessmentOutcome)
    (ending : List TraceEntry) (candidates : List PatentRecord)
    (hearings : List Assess.Hearing) : Prop where
  trace : report.trace = report.decisions settings request ++ ending
  concluded : Inquiry.Concluded settings request services clock report.strategy report.search
    report counted ending
  counts : report.metadata.Counts counted
  /-- The counters are those of the assessment, or what it had counted when it failed. -/
  assessment : match report.assessment with
    | some outcome =>
      counted = outcome ∧
        Assess.Completes (Assess.chunks settings.assessment.batchSize candidates) hearings
    | none =>
      report.metadata.patentsAssessed = 0 ∧ report.metadata.assessedNone = 0 ∧
        Assess.BreaksOff (Assess.chunks settings.assessment.batchSize candidates) hearings
  candidates : Assess.AreFirst candidates settings.assessment.maxAssessed report.search.patents
  tallies : counted.Tallies settings.assessment report.strategy report.search.patents
    services.reason (Inquiry.planned settings request services clock).2.calls
    (Inquiry.assessed settings request services clock report.strategy report.search).2.calls
    hearings
  patentsRetrieved : report.metadata.patentsRetrieved = report.search.patents.length
  apiCalls : report.metadata.apiCalls = report.search.apiCalls
  searchAttempts : report.metadata.stageAttempts.lookup .search =
    some ⟨report.search.apiCalls, 0, report.search.retries⟩

end Report

namespace Inquiry

section Run

variable {settings : RunSettings} {request : Request} {services : Services} {clock : Clock}

/-- The counters that an inquiry comes to are those of the batches that were begun. -/
theorem tallied_of_concluded {strategy : StrategyDocument} {search : SearchOutcome}
    {report : Report} {counted : AssessmentOutcome} {ending : List TraceEntry}
    (distinct : (search.patents.map (·.id)).Nodup)
    (concluded :
      Concluded settings request services clock strategy search report counted ending) :
    ∃ candidates hearings,
      Assess.AreFirst candidates settings.assessment.maxAssessed search.patents ∧
      counted.Tallies settings.assessment strategy search.patents services.reason
        (planned settings request services clock).2.calls
        (assessed settings request services clock strategy search).2.calls hearings ∧
      match report.assessment with
      | some outcome =>
        counted = outcome ∧
          Assess.Completes (Assess.chunks settings.assessment.batchSize candidates) hearings
      | none =>
        counted.assessments = [] ∧ counted.assessedNone = 0 ∧
          Assess.BreaksOff (Assess.chunks settings.assessment.batchSize candidates) hearings := by
  have tallied := Assess.tallies_of_run distinct
    (rfl : assessed settings request services clock strategy search = _)
  have answer : (planned settings request services clock).2.answer = services.reason :=
    (Planning.extends_run ..).answer
  dsimp only at tallied
  rw [answer] at tallied
  cases concluded with
  | full assessing _ _ kind =>
    rw [assessing] at tallied
    obtain ⟨candidates, hearings, first, completes, tallies⟩ := tallied (by rintro ⟨⟩)
    rw [kind.assessment]
    exact ⟨candidates, hearings, first, tallies, rfl, completes⟩
  | statisticsOnly assessing _ kind =>
    rw [assessing] at tallied
    obtain ⟨candidates, hearings, first, completes, tallies⟩ := tallied (by rintro ⟨⟩)
    rw [kind.assessment]
    exact ⟨candidates, hearings, first, tallies, rfl, completes⟩
  | unscored failed going counting kind =>
    rw [failed] at tallied
    obtain ⟨candidates, hearings, first, breaksOff, other, same, unassessed, none, tallies⟩ :=
      tallied (by rintro ⟨⟩; cases going)
    obtain rfl : counted = other := Option.some.inj (counting.symm.trans same)
    rw [kind.assessment]
    exact ⟨candidates, hearings, first, tallies, unassessed, none, breaksOff⟩

/-- **The audit trail.** In every report the trace tells what the record tells, in the order of the
stages, and the counters of the record are those of the outcomes and of the replies. -/
theorem isAudited_run {report : Report}
    (ok : (run settings request services clock).result = .ok report) :
    ∃ counted ending candidates hearings,
      report.IsAudited settings request services clock counted ending candidates hearings := by
  obtain ⟨-, strategy, search, planning, searching, completed⟩ := completed_of_result_eq_ok ok
  obtain ⟨rfl, rfl⟩ := completed.holds
  obtain ⟨counted, ending, recorded, concluded⟩ := concluded_of_result_eq_ok ok
  obtain ⟨candidates, hearings, first, tallies, assessment⟩ :=
    tallied_of_concluded (Search.isSound_of_run searching).distinct concluded
  refine ⟨counted, ending, candidates, hearings, ?_⟩
  exact
    { trace := recorded.trace_eq
      concluded
      counts := recorded.counts
      assessment := by
        cases rated : report.assessment with
        | some outcome =>
          rw [rated] at assessment
          exact assessment
        | none =>
          rw [rated] at assessment
          obtain ⟨unassessed, none, breaksOff⟩ := assessment
          have length := recorded.counts.patentsAssessed
          rw [unassessed] at length
          exact ⟨length, recorded.counts.assessedNone.trans none, breaksOff⟩
      candidates := first
      tallies
      patentsRetrieved := recorded.patentsRetrieved
      apiCalls := recorded.apiCalls
      searchAttempts := recorded.searchAttempts }

end Run

/-! ### An inquiry whose assessment fails -/

/-- The reply about the batch of the one patent names another one, and the next call fails. -/
def lostServices : Services :=
  { roadServices with
    reason
      | 0 => ⟨0, false, .ok roadReply⟩
      | 1 => ⟨0, false,
          .ok "\x7b\"assessments\":[\x7b\"patent_id\":\"P7\",\"relevance\":\"high\"\x7d]\x7d"⟩
      | _ => ⟨0, false, .error .unreadableBody⟩ }

theorem planned_lost : planned hastySettings hastyRequest lostServices .start =
    (⟨.ok roadStrategy, ⟨1, 0, 0⟩, none⟩,
      { roadReasoner with answer := lostServices.reason }) := by
  have asked (question : String) : Session.ask ⟨.start, lostServices.reason, []⟩ question =
      (.answered roadReply, ⟨.start, lostServices.reason, [⟨0, question⟩]⟩) := rfl
  exact Stage.attempt_of_read (asked _) readReply_road

theorem sought_lost : sought hastySettings hastyRequest lostServices .start roadStrategy =
    sought hastySettings hastyRequest roadServices .start roadStrategy := by
  unfold sought
  rw [planned_lost, planned_road]
  rfl

theorem assessed_lost {search : SearchOutcome} (found : search.patents = [roadPatent]) :
    ((assessed hastySettings hastyRequest lostServices .start roadStrategy search).1.output,
      (assessed hastySettings hastyRequest lostServices .start roadStrategy
        search).1.partialOutput.map (·.foreignDropped)) =
      (.error (.provider .unreadableBody), some 1) := by
  rw [assessed, planned_lost, sought_lost, (Prod.mk.inj sought_road).2, found]
  decide +kernel

/-- The report has no assessment, but its record and its trace tell of the entry for the patent that
was never found. -/
theorem isAudited_run_lost : ∃ report,
    (run hastySettings hastyRequest lostServices .start).result = .ok report ∧
      report.metadata.foreignAssessmentsDropped = 1 ∧
      report.trace = report.decisions hastySettings hastyRequest ++
        [.stageDegraded .assessment .unscoredResults (.provider .unreadableBody),
          .fallbackDetermination report.determination] ∧
      ∃ counted ending candidates hearings, report.IsAudited hastySettings hastyRequest
        lostServices .start counted ending candidates hearings := by
  have valid : hastyRequest.defect? hastySettings.pipeline.minDisclosure = none := by
    decide +kernel
  have planning : (planned hastySettings hastyRequest lostServices .start).1.output =
      .ok roadStrategy := by
    rw [planned_lost]
  have sought := (Prod.mk.inj sought_road).1
  rw [← sought_lost] at sought
  obtain ⟨search, searching, found⟩ := exists_of_toOption_map sought
  obtain ⟨failed, counting⟩ := Prod.mk.inj (assessed_lost found)
  obtain ⟨report, ok, completed⟩ :=
    run_of_assessed_error valid planning searching failed Bool.false_ne_true
  obtain ⟨isRoad, isSearch⟩ := completed.holds
  obtain ⟨counted, ending, candidates, hearings, audited⟩ := isAudited_run ok
  have concluded := audited.concluded
  rw [isRoad, isSearch] at concluded
  cases concluded with
  | full assessing =>
    rw [failed] at assessing
    cases assessing
  | statisticsOnly assessing =>
    rw [failed] at assessing
    cases assessing
  | @unscored error counted failing _ same kind =>
    obtain rfl : error = .provider .unreadableBody :=
      Except.error.inj (failing.symm.trans failed)
    rw [same] at counting
    have dropped := Option.some.inj counting
    refine ⟨report, ok, audited.counts.foreignAssessmentsDropped.trans dropped, ?_, counted, _,
      candidates, hearings, audited⟩
    rw [audited.trace, kind.layout]

end Inquiry

end PriorArt
