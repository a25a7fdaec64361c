import PriorArt.Run.Inquiry

/-!
# The stages of an inquiry

What the four stages of an inquiry come to, each with the session that the stages before it leave,
and what the inquiry comes to with them (`outcome_run`).
-/

namespace PriorArt

namespace Inquiry

section Stages

variable (settings : RunSettings) (request : Request) (services : Services) (clock : Clock)

def planned : StageRun StrategyDocument × Reasoner :=
  Planning.run (budget settings) (request.within settings.pipeline.maxDisclosure)
    ⟨clock, services.reason, []⟩

def sought (strategy : StrategyDocument) : Except RunError SearchOutcome × Search.Service :=
  Search.run settings.search strategy.strategies
    ⟨(planned settings request services clock).2.clock, services.search, []⟩

def assessed (strategy : StrategyDocument) (search : SearchOutcome) :
    StageRun AssessmentOutcome × Reasoner :=
  Assess.run settings.assessment settings.pipeline.backoffBase strategy search.patents
    { (planned settings request services clock).2 with
      clock := (sought settings request services clock strategy).2.clock }

def analysed (strategy : StrategyDocument) (search : SearchOutcome)
    (assessment : AssessmentOutcome) : StageRun LandscapeAnalysis × Reasoner :=
  Analysis.run (budget settings) strategy
    (Statistics.compute strategy.elements search.patents assessment.assessments)
    assessment.assessments (assessed settings request services clock strategy search).2

def found (strategy : StrategyDocument) (search : SearchOutcome) : Course :=
  let planning := planned settings request services clock
  let searching := sought settings request services clock strategy
  let begun := (Course.beginning settings request services clock).reach .strategyBegun
  let ready := (begun.reach .strategyReady).executed .strategy planning.1.metrics
  let returned := (ready.reach .searchBegun).reach (.searchReady search.patents.length)
  { returned.searched settings.search.maxPatents search with
    reasoner := { planning.2 with clock := searching.2.clock }
    service := searching.2 }

def rated (strategy : StrategyDocument) (search : SearchOutcome)
    (assessment : AssessmentOutcome) : Course :=
  let assessing := assessed settings request services clock strategy search
  let begun :=
    { (found settings request services clock strategy search).reach .assessmentBegun with
      reasoner := assessing.2 }
  let executed := begun.executed .assessment assessing.1.metrics
  (executed.noted settings.assessment.maxAssessed assessment).reach
    (.assessmentReady assessment.assessments.length)

end Stages

/-! ## What becomes of an inquiry -/

section Run

variable {settings : RunSettings} {request : Request} {services : Services} {clock : Clock}

theorem run_of_defect {defect : RequestDefect}
    (fault : request.defect? settings.pipeline.minDisclosure = some defect) :
    run settings request services clock =
      { result := .error (.invalidRequest defect)
        milestones := []
        reasonerCalls := []
        searchCalls := []
        clock } := by
  unfold run
  rw [fault]

variable (valid : request.defect? settings.pipeline.minDisclosure = none)

include valid

theorem run_of_planned_error {error : RunError}
    (failed : (planned settings request services clock).1.output = .error error) :
    run settings request services clock =
      { result := .error (error.tagged .strategy)
        milestones := [.strategyBegun]
        reasonerCalls := (planned settings request services clock).2.calls
        searchCalls := []
        clock := (planned settings request services clock).2.clock } := by
  unfold run
  rw [valid]
  show afterStrategy _ _ (planned settings request services clock).1 _ = _
  unfold afterStrategy
  rw [failed]
  rfl

section Planned

variable {strategy : StrategyDocument}
  (planning : (planned settings request services clock).1.output = .ok strategy)

include planning

theorem run_of_sought_error {error : RunError}
    (failed : (sought settings request services clock strategy).1 = .error error) :
    run settings request services clock =
      { result := .error (error.tagged .search)
        milestones := [.strategyBegun, .strategyReady, .searchBegun]
        reasonerCalls := (planned settings request services clock).2.calls
        searchCalls := (sought settings request services clock strategy).2.calls
        clock := (sought settings request services clock strategy).2.clock } := by
  unfold run
  rw [valid]
  show afterStrategy _ _ (planned settings request services clock).1 _ = _
  unfold afterStrategy
  rw [planning]
  show afterSearch _ _ _ (sought settings request services clock strategy).1 _ = _
  unfold afterSearch
  rw [failed]
  rfl

theorem run_of_sought {search : SearchOutcome}
    (searching : (sought settings request services clock strategy).1 = .ok search) :
    run settings request services clock =
      assess settings (request.within settings.pipeline.maxDisclosure) strategy search
        (found settings request services clock strategy search) := by
  unfold run
  rw [valid]
  show afterStrategy _ _ (planned settings request services clock).1 _ = _
  unfold afterStrategy
  rw [planning]
  show afterSearch _ _ _ (sought settings request services clock strategy).1 _ = _
  unfold afterSearch
  rw [searching]
  rfl

theorem run_eq_afterAssessment {search : SearchOutcome}
    (searching : (sought settings request services clock strategy).1 = .ok search) :
    run settings request services clock =
      afterAssessment settings (request.within settings.pipeline.maxDisclosure) strategy search
        (assessed settings request services clock strategy search).1
        { (found settings request services clock strategy search).reach .assessmentBegun with
          reasoner := (assessed settings request services clock strategy search).2 } := by
  rw [run_of_sought valid planning searching]
  rfl

theorem run_eq_afterLandscape {search : SearchOutcome} {assessment : AssessmentOutcome}
    (searching : (sought settings request services clock strategy).1 = .ok search)
    (assessing :
      (assessed settings request services clock strategy search).1.output = .ok assessment) :
    run settings request services clock =
      afterLandscape (request.within settings.pipeline.maxDisclosure) strategy search assessment
        (analysed settings request services clock strategy search assessment).1
        { (rated settings request services clock strategy search assessment).reach
            .landscapeBegun with
          reasoner := (analysed settings request services clock strategy search assessment).2 } := by
  rw [run_eq_afterAssessment valid planning searching]
  unfold afterAssessment
  rw [assessing]
  rfl

end Planned

end Run

end Inquiry

end PriorArt
