import PriorArt.Proofs.Inquiry.Stages

/-!
# Inquiries that have a report

The three kinds of report, each with what the record of the run says about it, and the inquiries
that come to them.

1. `Determination.Heuristic`: what is determined without a narrative.
2. `Report.IsFull`, `Report.IsStatisticsOnly`, `Report.IsUnscored`: the kinds of report.
3. `Completed`: how an inquiry comes to a report of one of them.
4. `completed_of_result_eq_ok`: an inquiry with a report has come to it in one of these ways.
-/

namespace PriorArt

namespace Determination

/-- What assessments and the number of patents found determine: one of high relevance is blocking
art, five of medium relevance make a crowded field, and with neither the field is clear, unless
nothing was found. -/
inductive Heuristic (assessments : List Assessment) (retrieved : Nat) : Determination → Prop
  | blockingArtFound : (∃ assessment ∈ assessments, assessment.relevance = .high) →
      Heuristic assessments retrieved .blockingArtFound
  | crowdedField : (∀ assessment ∈ assessments, assessment.relevance ≠ .high) →
      5 ≤ assessments.countP (·.relevance = .medium) →
      Heuristic assessments retrieved .crowdedField
  | inconclusive : (∀ assessment ∈ assessments, assessment.relevance ≠ .high) →
      assessments.countP (·.relevance = .medium) < 5 → retrieved = 0 →
      Heuristic assessments retrieved .inconclusive
  | clearField : (∀ assessment ∈ assessments, assessment.relevance ≠ .high) →
      assessments.countP (·.relevance = .medium) < 5 → retrieved ≠ 0 →
      Heuristic assessments retrieved .clearField

theorem heuristic_fallback (assessments : List Assessment) (retrieved : Nat) :
    Heuristic assessments retrieved (fallback assessments retrieved) := by
  unfold fallback
  split
  case isTrue high => exact .blockingArtFound (by simpa using List.countP_pos_iff.1 high)
  case isFalse noHigh =>
    have none : ∀ assessment ∈ assessments, assessment.relevance ≠ .high := by
      simpa using List.countP_eq_zero.1 (Nat.eq_zero_of_not_pos noHigh)
    split
    case isTrue medium => exact .crowdedField none medium
    case isFalse fewMedium =>
      have few := Nat.lt_of_not_le fewMedium
      split
      case isTrue empty => exact .inconclusive none few empty
      case isFalse found => exact .clearField none few found

end Determination

namespace Report

variable (report : Report) (document : StrategyDocument) (outcome : SearchOutcome)

/-- All stages have an outcome, and the narrative determines the report. -/
structure IsFull (rated : AssessmentOutcome) (analysis : LandscapeAnalysis) : Prop where
  layout : report.layout = .full
  strategy : report.strategy = document
  search : report.search = outcome
  assessment : report.assessment = some rated
  landscape : report.landscape = some analysis.narrative
  stats : report.stats =
    Statistics.compute document.elements outcome.patents rated.assessments
  determination : report.determination = analysis.narrative.determination
  degraded : report.metadata.degraded = false
  reason : report.metadata.degradedReason = Inquiry.degradedReason? report.layout
  stagesFailed : report.metadata.stagesFailed = []
  stagesExecuted : report.metadata.stagesExecuted = [.strategy, .search, .assessment, .landscape]

/-- There is no narrative, and the assessments determine the report. -/
structure IsStatisticsOnly (rated : AssessmentOutcome) : Prop where
  layout : report.layout = .statisticsOnly
  strategy : report.strategy = document
  search : report.search = outcome
  assessment : report.assessment = some rated
  landscape : report.landscape = none
  stats : report.stats =
    Statistics.compute document.elements outcome.patents rated.assessments
  determination : report.determination =
    .fallback rated.assessments outcome.patents.length
  heuristic : Determination.Heuristic rated.assessments outcome.patents.length report.determination
  degraded : report.metadata.degraded = true
  reason : report.metadata.degradedReason = Inquiry.degradedReason? report.layout
  stagesFailed : report.metadata.stagesFailed = [.landscape]
  stagesExecuted : report.metadata.stagesExecuted = [.strategy, .search, .assessment, .landscape]

/-- There is neither a narrative nor an assessment, and only the number of patents determines the
report. -/
structure IsUnscored : Prop where
  layout : report.layout = .unscoredResults
  strategy : report.strategy = document
  search : report.search = outcome
  assessment : report.assessment = none
  landscape : report.landscape = none
  stats : report.stats = Statistics.compute document.elements outcome.patents []
  determination : report.determination = .fallback [] outcome.patents.length
  heuristic : Determination.Heuristic [] outcome.patents.length report.determination
  degraded : report.metadata.degraded = true
  reason : report.metadata.degradedReason = Inquiry.degradedReason? report.layout
  stagesFailed : report.metadata.stagesFailed = [.assessment]
  stagesExecuted : report.metadata.stagesExecuted = [.strategy, .search, .assessment]

end Report

namespace Inquiry

def milestonesFound (search : SearchOutcome) : List Milestone :=
  [.strategyBegun, .strategyReady, .searchBegun, .searchReady search.patents.length,
    .assessmentBegun]

def milestonesAssessed (search : SearchOutcome) (assessment : AssessmentOutcome) :
    List Milestone :=
  milestonesFound search ++ [.assessmentReady assessment.assessments.length, .landscapeBegun]

section Completed

variable (settings : RunSettings) (request : Request) (services : Services) (clock : Clock)

/-- How an inquiry with a strategy and a search comes to its report: the report is of the kind that
the last two stages leave, the milestones tell of each stage, and a stage after one that failed has
called nobody. -/
inductive Completed (strategy : StrategyDocument) (search : SearchOutcome) (report : Report)
    (inquiry : Inquiry) : Prop
  | full (assessment : AssessmentOutcome) (analysis : LandscapeAnalysis) :
      (assessed settings request services clock strategy search).1.output = .ok assessment →
      (analysed settings request services clock strategy search assessment).1.output =
        .ok analysis →
      report.IsFull strategy search assessment analysis →
      inquiry.milestones = milestonesAssessed search assessment ++ [.landscapeReady] →
      inquiry.reasonerCalls =
        (analysed settings request services clock strategy search assessment).2.calls →
      Completed strategy search report inquiry
  | statisticsOnly (assessment : AssessmentOutcome) (error : RunError) :
      (assessed settings request services clock strategy search).1.output = .ok assessment →
      (analysed settings request services clock strategy search assessment).1.output =
        .error error →
      report.IsStatisticsOnly strategy search assessment →
      inquiry.milestones = milestonesAssessed search assessment ++ [.landscapeFailed] →
      inquiry.reasonerCalls =
        (analysed settings request services clock strategy search assessment).2.calls →
      Completed strategy search report inquiry
  | unscored (error : RunError) :
      (assessed settings request services clock strategy search).1.output = .error error →
      report.IsUnscored strategy search →
      inquiry.milestones = milestonesFound search ++ [.assessmentFailed] →
      inquiry.reasonerCalls =
        (assessed settings request services clock strategy search).2.calls →
      Completed strategy search report inquiry

end Completed

namespace Completed

variable {settings : RunSettings} {request : Request} {services : Services} {clock : Clock}
  {strategy : StrategyDocument} {search : SearchOutcome} {report : Report} {inquiry : Inquiry}

theorem holds (h : Completed settings request services clock strategy search report inquiry) :
    report.strategy = strategy ∧ report.search = search := by
  cases h with
  | full _ _ _ _ kind => exact ⟨kind.strategy, kind.search⟩
  | statisticsOnly _ _ _ _ kind => exact ⟨kind.strategy, kind.search⟩
  | unscored _ _ kind => exact ⟨kind.strategy, kind.search⟩

theorem assessed_of_some
    (h : Completed settings request services clock strategy search report inquiry)
    {assessment : AssessmentOutcome} (rated : report.assessment = some assessment) :
    (assessed settings request services clock strategy search).1.output = .ok assessment := by
  cases h with
  | full _ _ assessing _ kind =>
    rw [kind.assessment] at rated
    exact Option.some.inj rated ▸ assessing
  | statisticsOnly _ _ assessing _ kind =>
    rw [kind.assessment] at rated
    exact Option.some.inj rated ▸ assessing
  | unscored _ _ kind =>
    rw [kind.assessment] at rated
    cases rated

theorem analysed_of_some
    (h : Completed settings request services clock strategy search report inquiry)
    {narrative : Narrative} (told : report.landscape = some narrative) :
    ∃ assessment analysis, report.assessment = some assessment ∧
      (analysed settings request services clock strategy search assessment).1.output =
        .ok analysis ∧
      analysis.narrative = narrative := by
  cases h with
  | full assessment analysis _ analysing kind =>
    rw [kind.landscape] at told
    exact ⟨assessment, analysis, kind.assessment, analysing, Option.some.inj told⟩
  | statisticsOnly _ _ _ _ kind =>
    rw [kind.landscape] at told
    cases told
  | unscored _ _ kind =>
    rw [kind.landscape] at told
    cases told

theorem stats_eq (h : Completed settings request services clock strategy search report inquiry) :
    report.stats = Statistics.compute strategy.elements search.patents
      ((report.assessment.map (·.assessments)).getD []) := by
  cases h with
  | full _ _ _ _ kind => rw [kind.stats, kind.assessment, Option.map_some, Option.getD_some]
  | statisticsOnly _ _ _ _ kind =>
    rw [kind.stats, kind.assessment, Option.map_some, Option.getD_some]
  | unscored _ _ kind => rw [kind.stats, kind.assessment, Option.map_none, Option.getD_none]

end Completed

section Run

variable {settings : RunSettings} {request : Request} {services : Services} {clock : Clock}
  (valid : request.defect? settings.pipeline.minDisclosure = none)
  {strategy : StrategyDocument} {search : SearchOutcome}
  (planning : (planned settings request services clock).1.output = .ok strategy)
  (searching : (sought settings request services clock strategy).1 = .ok search)

include valid planning searching

theorem run_of_assessed_error {error : RunError}
    (failed : (assessed settings request services clock strategy search).1.output = .error error)
    (kept : ¬ error.isCancelled = true) :
    ∃ report, (run settings request services clock).result = .ok report ∧
      Completed settings request services clock strategy search report
        (run settings request services clock) := by
  rw [run_eq_afterAssessment valid planning searching]
  unfold afterAssessment
  rw [failed]
  dsimp only
  rw [if_neg kept]
  cases (assessed settings request services clock strategy search).1.partialOutput with
  | none =>
    refine ⟨_, rfl, .unscored error failed ?_ rfl rfl⟩
    constructor
    case heuristic => exact Determination.heuristic_fallback ..
    all_goals rfl
  | some counted =>
    refine ⟨_, rfl, .unscored error failed ?_ rfl rfl⟩
    constructor
    case heuristic => exact Determination.heuristic_fallback ..
    all_goals rfl

theorem run_of_assessed_cancelled {error : RunError}
    (failed : (assessed settings request services clock strategy search).1.output = .error error)
    (cancelled : error.isCancelled = true) :
    (run settings request services clock).result = .error .cancelled := by
  rw [run_eq_afterAssessment valid planning searching]
  unfold afterAssessment
  rw [failed]
  dsimp only
  rw [if_pos cancelled]
  rfl

variable {assessment : AssessmentOutcome}
  (assessing :
    (assessed settings request services clock strategy search).1.output = .ok assessment)

include assessing

theorem run_of_analysed_error {error : RunError}
    (failed : (analysed settings request services clock strategy search assessment).1.output =
      .error error)
    (kept : ¬ error.isCancelled = true) :
    ∃ report, (run settings request services clock).result = .ok report ∧
      Completed settings request services clock strategy search report
        (run settings request services clock) := by
  rw [run_eq_afterLandscape valid planning searching assessing]
  unfold afterLandscape
  rw [failed]
  dsimp only
  rw [if_neg kept]
  refine ⟨_, rfl, .statisticsOnly assessment error assessing failed ?_ rfl rfl⟩
  constructor
  case heuristic => exact Determination.heuristic_fallback ..
  all_goals rfl

theorem run_of_analysed_cancelled {error : RunError}
    (failed : (analysed settings request services clock strategy search assessment).1.output =
      .error error)
    (cancelled : error.isCancelled = true) :
    (run settings request services clock).result = .error .cancelled := by
  rw [run_eq_afterLandscape valid planning searching assessing]
  unfold afterLandscape
  rw [failed]
  dsimp only
  rw [if_pos cancelled]
  rfl

theorem run_of_analysed {analysis : LandscapeAnalysis}
    (analysing : (analysed settings request services clock strategy search assessment).1.output =
      .ok analysis) :
    ∃ report, (run settings request services clock).result = .ok report ∧
      Completed settings request services clock strategy search report
        (run settings request services clock) := by
  rw [run_eq_afterLandscape valid planning searching assessing]
  unfold afterLandscape
  rw [analysing]
  refine ⟨_, rfl, .full assessment analysis assessing analysing ?_ rfl rfl⟩
  constructor <;> rfl

end Run

/-! ## Inquiries with a strategy and a search -/

section Run

variable {settings : RunSettings} {request : Request} {services : Services} {clock : Clock}
  {strategy : StrategyDocument} {search : SearchOutcome}

theorem completed_or_cancelled
    (valid : request.defect? settings.pipeline.minDisclosure = none)
    (planning : (planned settings request services clock).1.output = .ok strategy)
    (searching : (sought settings request services clock strategy).1 = .ok search) :
    (∃ report, (run settings request services clock).result = .ok report ∧
      Completed settings request services clock strategy search report
        (run settings request services clock)) ∨
      (run settings request services clock).result = .error .cancelled := by
  cases assessing : (assessed settings request services clock strategy search).1.output with
  | error error =>
    by_cases cancelled : error.isCancelled = true
    · exact .inr (run_of_assessed_cancelled valid planning searching assessing cancelled)
    · exact .inl (run_of_assessed_error valid planning searching assessing cancelled)
  | ok assessment =>
    cases analysing :
      (analysed settings request services clock strategy search assessment).1.output with
    | error error =>
      by_cases cancelled : error.isCancelled = true
      · exact .inr (run_of_analysed_cancelled valid planning searching assessing analysing cancelled)
      · exact .inl (run_of_analysed_error valid planning searching assessing analysing cancelled)
    | ok analysis => exact .inl (run_of_analysed valid planning searching assessing analysing)

theorem completed_of_result_eq_ok {report : Report}
    (ok : (run settings request services clock).result = .ok report) :
    request.defect? settings.pipeline.minDisclosure = none ∧
      ∃ strategy search,
        (planned settings request services clock).1.output = .ok strategy ∧
        (sought settings request services clock strategy).1 = .ok search ∧
        Completed settings request services clock strategy search report
          (run settings request services clock) := by
  cases valid : request.defect? settings.pipeline.minDisclosure with
  | some defect =>
    rw [run_of_defect valid] at ok
    cases ok
  | none =>
    refine ⟨rfl, ?_⟩
    cases planning : (planned settings request services clock).1.output with
    | error error =>
      rw [run_of_planned_error valid planning] at ok
      cases ok
    | ok strategy =>
      cases searching : (sought settings request services clock strategy).1 with
      | error error =>
        rw [run_of_sought_error valid planning searching] at ok
        cases ok
      | ok search =>
        rcases completed_or_cancelled valid planning searching with
          ⟨other, same, completed⟩ | cancelled
        · obtain rfl : other = report := Except.ok.inj (same.symm.trans ok)
          exact ⟨strategy, search, rfl, searching, completed⟩
        · rw [cancelled] at ok
          cases ok

end Run

end Inquiry

end PriorArt
