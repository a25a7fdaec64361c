import PriorArt.Run.Planning
import PriorArt.Run.Report

/-!
# Inquiries

An inquiry takes a request through the four stages to a report. A request with a fault is refused
before the first stage. Without a strategy or a search there is no report; without an assessment or
a narrative the report is a degraded one. A cancelled inquiry has no report.
-/

namespace PriorArt

/-- A moment of an inquiry that an observer is told of. -/
inductive Milestone where
  | strategyBegun
  | strategyReady
  | searchBegun
  | searchReady (patents : Nat)
  | assessmentBegun
  | assessmentReady (kept : Nat)
  | assessmentFailed
  | landscapeBegun
  | landscapeReady
  | landscapeFailed
  deriving DecidableEq

namespace Milestone

def stage : Milestone → Stage
  | .strategyBegun | .strategyReady => .strategy
  | .searchBegun | .searchReady _ => .search
  | .assessmentBegun | .assessmentReady _ | .assessmentFailed => .assessment
  | .landscapeBegun | .landscapeReady | .landscapeFailed => .landscape

def message : Milestone → String
  | .strategyBegun => "Building search strategy."
  | .strategyReady => "Search strategy ready."
  | .searchBegun => "Executing patent search."
  | .searchReady patents => "Patent search returned " ++ toString patents ++ " patents."
  | .assessmentBegun => "Assessing relevance."
  | .assessmentReady kept => "Relevance assessment kept " ++ toString kept ++ " patents."
  | .assessmentFailed => "Relevance assessment failed; continuing degraded."
  | .landscapeBegun => "Building landscape analysis."
  | .landscapeReady => "Landscape analysis ready."
  | .landscapeFailed => "Landscape analysis failed; continuing degraded."

end Milestone

/-- The outside services of an inquiry: the name of the model, and the answers of the reasoning and
of the patent-search service by the number of the call. -/
structure Services where
  model : String
  reason : Nat → Answer String
  search : Nat → Answer SearchResponse

/-- What came of an inquiry: its result, the milestones that were reached, the calls that were made
and the clock at the end. -/
structure Inquiry where
  result : Except RunError Report
  milestones : List Milestone
  reasonerCalls : List (Call String)
  searchCalls : List (Call TextQuery)
  clock : Clock

/-! ## Requests -/

def Request.defect? (request : Request) (leastDisclosure : Nat) : Option RequestDefect :=
  if Text.isBlankText request.caseId then some .blankCaseId
  else if Text.size request.disclosure < leastDisclosure then
    some (.disclosureTooShort leastDisclosure)
  else none

def Request.isOverlong (request : Request) (mostDisclosure : Nat) : Bool :=
  mostDisclosure < request.disclosure.length

def Request.cut (request : Request) (mostDisclosure : Nat) : Request :=
  { request with disclosure := String.ofList (request.disclosure.toList.take mostDisclosure) }

/-- The request with no more of the disclosure than is allowed. -/
def Request.within (request : Request) (mostDisclosure : Nat) : Request :=
  if request.isOverlong mostDisclosure then request.cut mostDisclosure else request

namespace Inquiry

/-! ## The record of a run -/

/-- What is recorded when an inquiry begins. -/
def opening (model : String) (inputTruncated : Bool) : Metadata :=
  { model, inputTruncated
    duration := 0
    degradedReason := none
    stagesExecuted := []
    stagesFailed := []
    stageAttempts := []
    apiCalls := 0
    patentsRetrieved := 0
    patentsAssessed := 0
    abstractsMissing := 0
    assessmentTruncated := false
    assessedNone := 0
    fallbackAssessments := 0
    foreignAssessmentsDropped := 0 }

def executed (stage : Stage) (metrics : Metrics) (metadata : Metadata) : Metadata :=
  { metadata with
    stagesExecuted := metadata.stagesExecuted ++ [stage]
    stageAttempts := metadata.stageAttempts ++ [(stage, metrics)] }

/-- The calls of a search, as those of a stage. -/
def searchMetrics (search : SearchOutcome) : Metrics :=
  ⟨search.apiCalls, 0, search.retries⟩

def searched (search : SearchOutcome) (metadata : Metadata) : Metadata :=
  { executed .search (searchMetrics search) metadata with
    apiCalls := search.apiCalls
    patentsRetrieved := search.patents.length }

/-- The counts of an assessment, or of as much of it as there was before it failed. -/
def counted (assessment : AssessmentOutcome) (metadata : Metadata) : Metadata :=
  { metadata with
    patentsAssessed := assessment.assessments.length
    abstractsMissing := assessment.abstractsMissing
    assessmentTruncated := assessment.truncated
    assessedNone := assessment.assessedNone
    fallbackAssessments := assessment.fallbacks
    foreignAssessmentsDropped := assessment.foreignDropped }

def degradedReason? : ReportLayout → Option String
  | .full => none
  | .unscoredResults =>
    some "Relevance assessment failed. Results are unscored search results only."
  | .statisticsOnly =>
    some "Landscape analysis failed. Results carry computed statistics without narrative."

def degraded (stage : Stage) (layout : ReportLayout) (metadata : Metadata) : Metadata :=
  { metadata with
    degradedReason := degradedReason? layout
    stagesFailed := metadata.stagesFailed ++ [stage] }

/-! ## The trace -/

def truncationTrace (fullSize keptSize : Nat) (inputTruncated : Bool) : List TraceEntry :=
  if inputTruncated then [.inputTruncated fullSize keptSize] else []

def searchTrace (maxPatents : Nat) (search : SearchOutcome) : List TraceEntry :=
  match search.capReachedBy with
  | some strategy => [.patentCapReached strategy maxPatents]
  | none => []

def assessmentTrace (maxAssessed : Nat) (assessment : AssessmentOutcome) : List TraceEntry :=
  (if assessment.truncated then [.assessmentTruncated maxAssessed] else []) ++
    (if 0 < assessment.foreignDropped then
      [.foreignAssessmentsDropped assessment.foreignDropped] else []) ++
    (if 0 < assessment.fallbacks then [.fallbackAssessments assessment.fallbacks] else [])

def degradedTrace (stage : Stage) (layout : ReportLayout) (error : RunError)
    (determination : Determination) : List TraceEntry :=
  [.stageDegraded stage layout error, .fallbackDetermination determination]

/-! ## The stages -/

/-- What an inquiry has come to: the record and the trace so far, the milestones reached, and the
sessions with the two services. -/
structure Course where
  started : Nat
  metadata : Metadata
  trace : List TraceEntry
  milestones : List Milestone
  reasoner : Reasoner
  service : Search.Service

namespace Course

/-- The course of an inquiry that begins at the time of the clock. -/
def beginning (settings : RunSettings) (request : Request) (services : Services) (clock : Clock) :
    Course :=
  let most := settings.pipeline.maxDisclosure
  { started := clock.now
    metadata := opening services.model (request.isOverlong most)
    trace := truncationTrace request.disclosure.length most (request.isOverlong most)
    milestones := []
    reasoner := ⟨clock, services.reason, []⟩
    service := ⟨clock, services.search, []⟩ }

def reach (course : Course) (milestone : Milestone) : Course :=
  { course with milestones := course.milestones ++ [milestone] }

def executed (course : Course) (stage : Stage) (metrics : Metrics) : Course :=
  { course with metadata := Inquiry.executed stage metrics course.metadata }

def searched (course : Course) (maxPatents : Nat) (search : SearchOutcome) : Course :=
  { course with
    metadata := Inquiry.searched search course.metadata
    trace := course.trace ++ searchTrace maxPatents search }

def noted (course : Course) (maxAssessed : Nat) (assessment : AssessmentOutcome) : Course :=
  { course with
    metadata := counted assessment course.metadata
    trace := course.trace ++ assessmentTrace maxAssessed assessment }

def degraded (course : Course) (stage : Stage) (layout : ReportLayout) (error : RunError)
    (determination : Determination) : Course :=
  { course with
    metadata := Inquiry.degraded stage layout course.metadata
    trace := course.trace ++ degradedTrace stage layout error determination }

def fail (course : Course) (clock : Clock) (error : RunError) : Inquiry :=
  { result := .error error
    milestones := course.milestones
    reasonerCalls := course.reasoner.calls
    searchCalls := course.service.calls
    clock }

def finish (course : Course) (report : Metadata → List TraceEntry → Report) : Inquiry :=
  let clock := course.reasoner.clock
  let metadata := { course.metadata with duration := clock.now - course.started }
  { result := .ok (report metadata course.trace)
    milestones := course.milestones
    reasonerCalls := course.reasoner.calls
    searchCalls := course.service.calls
    clock }

end Course

def budget (settings : RunSettings) : RetryBudget :=
  ⟨settings.pipeline.maxStageAttempts, settings.pipeline.backoffBase⟩

/-- The report that the last stage leaves: one without a narrative if it failed. -/
def afterLandscape (request : Request) (strategy : StrategyDocument) (search : SearchOutcome)
    (assessment : AssessmentOutcome) (stage : StageRun LandscapeAnalysis) (course : Course) :
    Inquiry :=
  let stats := Statistics.compute strategy.elements search.patents assessment.assessments
  let course := course.executed .landscape stage.metrics
  match stage.output with
  | .ok analysis =>
    let course := { course.reach .landscapeReady with
      trace := course.trace ++ analysis.corrections.map TraceEntry.narrativeCorrected }
    course.finish fun metadata trace =>
      { request, strategy, search, stats, metadata, trace
        assessment := some assessment
        landscape := some analysis.narrative
        determination := analysis.narrative.determination
        layout := .full }
  | .error error =>
    if error.isCancelled then course.fail course.reasoner.clock .cancelled
    else
      let determination :=
        Determination.fallback assessment.assessments search.patents.length
      let course := (course.reach .landscapeFailed).degraded .landscape .statisticsOnly error
        determination
      course.finish fun metadata trace =>
        { request, strategy, search, stats, metadata, trace, determination
          assessment := some assessment
          landscape := none
          layout := .statisticsOnly }

/-- The last stage. -/
def analyzeLandscape (settings : RunSettings) (request : Request) (strategy : StrategyDocument)
    (search : SearchOutcome) (assessment : AssessmentOutcome) (course : Course) : Inquiry :=
  let stats := Statistics.compute strategy.elements search.patents assessment.assessments
  let course := course.reach .landscapeBegun
  let ended :=
    Analysis.run (budget settings) strategy stats assessment.assessments course.reasoner
  afterLandscape request strategy search assessment ended.1 { course with reasoner := ended.2 }

/-- What follows the third stage: the last one, or a report of search results if it failed. -/
def afterAssessment (settings : RunSettings) (request : Request) (strategy : StrategyDocument)
    (search : SearchOutcome) (stage : StageRun AssessmentOutcome) (course : Course) : Inquiry :=
  let noted := (course.executed .assessment stage.metrics).noted settings.assessment.maxAssessed
  match stage.output with
  | .ok assessment =>
    analyzeLandscape settings request strategy search assessment
      ((noted assessment).reach (.assessmentReady assessment.assessments.length))
  | .error error =>
    if error.isCancelled then course.fail course.reasoner.clock .cancelled
    else
      let course :=
        (stage.partialOutput.map noted).getD (course.executed .assessment stage.metrics)
      let determination := Determination.fallback [] search.patents.length
      let course := (course.reach .assessmentFailed).degraded .assessment .unscoredResults error
        determination
      course.finish fun metadata trace =>
        { request, strategy, search, metadata, trace, determination
          assessment := none
          landscape := none
          stats := Statistics.compute strategy.elements search.patents []
          layout := .unscoredResults }

/-- The third stage. -/
def assess (settings : RunSettings) (request : Request) (strategy : StrategyDocument)
    (search : SearchOutcome) (course : Course) : Inquiry :=
  let course := course.reach .assessmentBegun
  let ended :=
    Assess.run settings.assessment settings.pipeline.backoffBase strategy search.patents
      course.reasoner
  afterAssessment settings request strategy search ended.1 { course with reasoner := ended.2 }

/-- What follows the second stage, without which there is no report. -/
def afterSearch (settings : RunSettings) (request : Request) (strategy : StrategyDocument)
    (found : Except RunError SearchOutcome) (course : Course) : Inquiry :=
  match found with
  | .error error => course.fail course.reasoner.clock (error.tagged .search)
  | .ok search =>
    assess settings request strategy search
      ((course.reach (.searchReady search.patents.length)).searched settings.search.maxPatents search)

/-- The second stage. The search goes on with the clock of the reasoning service, and hands it
back. -/
def search (settings : RunSettings) (request : Request) (strategy : StrategyDocument)
    (course : Course) : Inquiry :=
  let course := course.reach .searchBegun
  let ended :=
    Search.run settings.search strategy.strategies
      { course.service with clock := course.reasoner.clock }
  afterSearch settings request strategy ended.1
    { course with
      service := ended.2
      reasoner := { course.reasoner with clock := ended.2.clock } }

/-- What follows the first stage, without which there is no report. -/
def afterStrategy (settings : RunSettings) (request : Request)
    (stage : StageRun StrategyDocument) (course : Course) : Inquiry :=
  match stage.output with
  | .error error => course.fail course.reasoner.clock (error.tagged .strategy)
  | .ok strategy =>
    search settings request strategy
      ((course.reach .strategyReady).executed .strategy stage.metrics)

/-- The first stage. -/
def plan (settings : RunSettings) (request : Request) (course : Course) : Inquiry :=
  let course := course.reach .strategyBegun
  let ended := Planning.run (budget settings) request course.reasoner
  afterStrategy settings request ended.1 { course with reasoner := ended.2 }

def run (settings : RunSettings) (request : Request) (services : Services) (clock : Clock) :
    Inquiry :=
  match request.defect? settings.pipeline.minDisclosure with
  | some defect =>
    { result := .error (.invalidRequest defect)
      milestones := []
      reasonerCalls := []
      searchCalls := []
      clock }
  | none =>
    plan settings (request.within settings.pipeline.maxDisclosure)
      (.beginning settings request services clock)

end Inquiry

end PriorArt
