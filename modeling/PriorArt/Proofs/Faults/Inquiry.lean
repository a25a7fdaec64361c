import PriorArt.Proofs.Faults.Assessment
import PriorArt.Proofs.Faults.Search
import PriorArt.Proofs.Inquiry.References
import PriorArt.Proofs.Inquiry.Shapes

/-!
# An inquiry with inserted faults

Failures that pass leave no trace in what an inquiry comes to.

1. `Services.withFaults`: the services, with faults before their calls. `Spared`: the attempts of
   every query, batch and stage are enough for the faults before its calls.
2. `Course.Alike`, `Alike`: what is the same in two inquiries that differ in the numbers of attempts
   and in the times.
3. `alike_run`: an inquiry that is spared comes to the same with the faults, and asks the same.
-/

namespace PriorArt

open Session

/-- The faults of the two services. -/
structure ServiceFaults where
  reason : Faults
  search : Faults

/-- The faults of the reasoning service pass, and those of the search are temporary. -/
structure ServiceFaults.Passing (faults : ServiceFaults) : Prop where
  reason : faults.reason.Transient
  search : faults.search.Temporary

def Services.withFaults (services : Services) (faults : ServiceFaults) : Services :=
  { services with
    reason := faults.reason.insertedInto services.reason
    search := faults.search.insertedInto services.search }

/-! ## What faults leave as it is -/

/-- The record without the times and the numbers that faults change. -/
def Metadata.uncounted (metadata : Metadata) : Metadata :=
  { metadata with
    duration := 0
    stageAttempts := metadata.stageAttempts.map fun row => (row.1, row.2.uncounted)
    apiCalls := 0 }

/-- The report without the times and the numbers that faults change. -/
def Report.uncounted (report : Report) : Report :=
  { report with
    search := report.search.uncounted
    metadata := report.metadata.uncounted }

namespace Inquiry

/-- The second inquiry comes to what the first one does, and made each of its calls as often as the
faults demand. -/
structure Alike (faults : ServiceFaults) (first second : Inquiry) : Prop where
  result : second.result.map Report.uncounted = first.result.map Report.uncounted
  milestones : second.milestones = first.milestones
  prompts : second.reasonerCalls.map (·.question) =
    faults.reason.repeated 0 (first.reasonerCalls.map (·.question))
  queries : second.searchCalls.map (·.question) =
    faults.search.repeated 0 (first.searchCalls.map (·.question))

/-- The second inquiry has come to what the first one has. -/
structure Course.Alike (faults : ServiceFaults) (first second : Course) : Prop where
  metadata : second.metadata.uncounted = first.metadata.uncounted
  trace : second.trace = first.trace
  milestones : second.milestones = first.milestones
  reasoner : InStep faults.reason first.reasoner second.reasoner
  service : InStep faults.search first.service second.service

variable {faults : ServiceFaults}

/-! ## The record -/

theorem uncounted_executed (stage : Stage) (metrics : Metrics) (metadata : Metadata) :
    (executed stage metrics metadata).uncounted =
      executed stage metrics.uncounted metadata.uncounted := by
  simp [executed, Metadata.uncounted]

theorem uncounted_searched (search : SearchOutcome) (metadata : Metadata) :
    (searched search metadata).uncounted =
      (searched search.uncounted metadata.uncounted).uncounted := by
  simp [searched, executed, Metadata.uncounted, SearchOutcome.uncounted, searchMetrics,
    Metrics.uncounted]

namespace Course.Alike

variable {first second : Course} (alike : first.Alike faults second)

include alike

theorem reach (milestone : Milestone) :
    (first.reach milestone).Alike faults (second.reach milestone) :=
  { alike with milestones := congrArg (· ++ [milestone]) alike.milestones }

theorem executed (stage : Stage) {metrics metrics' : Metrics}
    (same : metrics'.uncounted = metrics.uncounted) :
    (first.executed stage metrics).Alike faults (second.executed stage metrics') :=
  { alike with
    metadata := by
      show (Inquiry.executed _ _ _).uncounted = (Inquiry.executed _ _ _).uncounted
      rw [uncounted_executed, uncounted_executed, same, alike.metadata] }

theorem searched (maxPatents : Nat) {search search' : SearchOutcome}
    (same : search'.uncounted = search.uncounted) :
    (first.searched maxPatents search).Alike faults (second.searched maxPatents search') :=
  { alike with
    metadata := by
      show (Inquiry.searched _ _).uncounted = (Inquiry.searched _ _).uncounted
      rw [uncounted_searched search', uncounted_searched search, same, alike.metadata]
    trace := by
      have capped (search : SearchOutcome) :
          searchTrace maxPatents search = searchTrace maxPatents search.uncounted := rfl
      show second.trace ++ searchTrace maxPatents search' = first.trace ++ _
      rw [alike.trace, capped search', capped search, same] }

theorem noted (maxAssessed : Nat) (assessment : AssessmentOutcome) :
    (first.noted maxAssessed assessment).Alike faults (second.noted maxAssessed assessment) :=
  { alike with
    metadata := congrArg (counted assessment) alike.metadata
    trace := congrArg (· ++ assessmentTrace maxAssessed assessment) alike.trace }

theorem partly (maxAssessed : Nat) (assessment? : Option AssessmentOutcome) :
    Course.Alike faults ((assessment?.map (first.noted maxAssessed)).getD first)
      ((assessment?.map (second.noted maxAssessed)).getD second) := by
  cases assessment? with
  | none => exact alike
  | some assessment => exact alike.noted maxAssessed assessment

theorem degraded (stage : Stage) (layout : ReportLayout) (error : RunError)
    (determination : Determination) :
    (first.degraded stage layout error determination).Alike faults
      (second.degraded stage layout error determination) :=
  { alike with
    metadata := congrArg (Inquiry.degraded stage layout) alike.metadata
    trace := congrArg (· ++ degradedTrace stage layout error determination) alike.trace }

theorem corrected (corrections : List TraceEntry) :
    Course.Alike faults { first with trace := first.trace ++ corrections }
      { second with trace := second.trace ++ corrections } :=
  { alike with trace := congrArg (· ++ corrections) alike.trace }

theorem ofSessions {reasoner reasoner' : Reasoner} {service service' : Search.Service}
    (asked : InStep faults.reason reasoner reasoner')
    (sent : InStep faults.search service service') :
    Course.Alike faults { first with reasoner, service }
      { second with reasoner := reasoner', service := service' } :=
  { alike with
    reasoner := asked
    service := sent }

theorem fail (clock clock' : Clock) (error : RunError) :
    Inquiry.Alike faults (first.fail clock error) (second.fail clock' error) where
  result := rfl
  milestones := alike.milestones
  prompts := alike.reasoner.questions
  queries := alike.service.questions

theorem finish {report report' : Metadata → List TraceEntry → Report}
    (same : ∀ metadata metadata' trace, metadata'.uncounted = metadata.uncounted →
      (report' metadata' trace).uncounted = (report metadata trace).uncounted) :
    Inquiry.Alike faults (first.finish report) (second.finish report') where
  result := by
    refine congrArg Except.ok ?_
    rw [alike.trace]
    exact same _ _ _ alike.metadata
  milestones := alike.milestones
  prompts := alike.reasoner.questions
  queries := alike.service.questions

end Course.Alike

/-! ## The stages -/

section Stages

variable {settings : RunSettings} {request : Request} {strategy : StrategyDocument}
  {search search' : SearchOutcome} (found : search'.uncounted = search.uncounted)
  {first second : Course} (alike : first.Alike faults second)

include found alike

theorem alike_afterLandscape (assessment : AssessmentOutcome)
    {stage stage' : StageRun LandscapeAnalysis} (same : stage'.uncounted = stage.uncounted) :
    Alike faults (afterLandscape request strategy search assessment stage first)
      (afterLandscape request strategy search' assessment stage' second) := by
  have patents : search'.patents = search.patents := congrArg (·.patents) found
  obtain ⟨output, metrics, partialOutput⟩ := stage
  obtain ⟨output', metrics', partialOutput'⟩ := stage'
  simp only [StageRun.uncounted, StageRun.mk.injEq] at same
  obtain ⟨rfl, metrics, rfl⟩ := same
  have executed := alike.executed .landscape metrics
  unfold afterLandscape
  dsimp only
  rw [patents]
  cases output' with
  | ok analysis =>
    refine ((executed.reach .landscapeReady).corrected _).finish ?_
    intro metadata metadata' trace recorded
    simp only [Report.uncounted, recorded, found]
  | error error =>
    dsimp only
    split
    · exact alike.fail _ _ .cancelled
    · have told := executed.reach .landscapeFailed
      refine (told.degraded .landscape .statisticsOnly error _).finish ?_
      intro metadata metadata' trace recorded
      simp only [Report.uncounted, recorded, found]

variable (passing : faults.Passing)

include passing

theorem alike_analyzeLandscape (assessment : AssessmentOutcome)
    (enough : faults.reason.Suffice (max settings.pipeline.maxStageAttempts 1)
      first.reasoner.calls.length
      (Analysis.run (budget settings) strategy
        (Statistics.compute strategy.elements search.patents assessment.assessments)
        assessment.assessments first.reasoner).2.calls.length) :
    Alike faults (analyzeLandscape settings request strategy search assessment first)
      (analyzeLandscape settings request strategy search' assessment second) := by
  have patents : search'.patents = search.patents := congrArg (·.patents) found
  have agree := Stage.agree_run passing.reason alike.reasoner (budget settings) _ enough
  unfold analyzeLandscape
  rw [patents]
  exact alike_afterLandscape found
    ((alike.reach .landscapeBegun).ofSessions agree.inStep alike.service) assessment agree.same

theorem alike_afterAssessment {stage stage' : StageRun AssessmentOutcome}
    (same : stage'.uncounted = stage.uncounted)
    (enough : ∀ assessment, stage.output = .ok assessment →
      faults.reason.Suffice (max settings.pipeline.maxStageAttempts 1) first.reasoner.calls.length
        (Analysis.run (budget settings) strategy
          (Statistics.compute strategy.elements search.patents assessment.assessments)
          assessment.assessments first.reasoner).2.calls.length) :
    Alike faults (afterAssessment settings request strategy search stage first)
      (afterAssessment settings request strategy search' stage' second) := by
  have patents : search'.patents = search.patents := congrArg (·.patents) found
  obtain ⟨output, metrics, partialOutput⟩ := stage
  obtain ⟨output', metrics', partialOutput'⟩ := stage'
  simp only [StageRun.uncounted, StageRun.mk.injEq] at same
  obtain ⟨rfl, metrics, rfl⟩ := same
  have executed := alike.executed .assessment metrics
  unfold afterAssessment
  dsimp only
  rw [patents]
  cases output' with
  | ok assessment =>
    exact alike_analyzeLandscape found ((executed.noted _ assessment).reach _) passing assessment
      (enough assessment rfl)
  | error error =>
    dsimp only
    split
    · exact alike.fail _ _ .cancelled
    · have noted := executed.partly settings.assessment.maxAssessed partialOutput'
      have told := noted.reach .assessmentFailed
      refine (told.degraded .assessment .unscoredResults error _).finish ?_
      intro metadata metadata' trace recorded
      simp only [Report.uncounted, recorded, found]

theorem alike_assess
    (within : ∀ rounds, Assess.Asked settings.assessment settings.pipeline.backoffBase strategy
        search.patents first.reasoner rounds →
      faults.reason.Within (max settings.assessment.maxAttempts 1) first.reasoner.calls.length
        (rounds.map (·.calls.length)))
    (enough : ∀ assessment,
      let assessed := Assess.run settings.assessment settings.pipeline.backoffBase strategy
        search.patents first.reasoner
      assessed.1.output = .ok assessment →
      faults.reason.Suffice (max settings.pipeline.maxStageAttempts 1) assessed.2.calls.length
        (Analysis.run (budget settings) strategy
          (Statistics.compute strategy.elements search.patents assessment.assessments)
          assessment.assessments assessed.2).2.calls.length) :
    Alike faults (assess settings request strategy search first)
      (assess settings request strategy search' second) := by
  have patents : search'.patents = search.patents := congrArg (·.patents) found
  have agree := Assess.agree_run passing.reason alike.reasoner search.patents within
  unfold assess
  rw [patents]
  exact alike_afterAssessment found
    ((alike.reach .assessmentBegun).ofSessions agree.inStep alike.service) passing agree.same enough

end Stages

/-! ## The inquiry -/

section Run

variable (settings : RunSettings) (request : Request) (services : Services) (clock : Clock)

/-- The attempts of each query and each batch, and those of the first and the last stage, are enough
for the faults before their calls, too. -/
structure Spared (faults : ServiceFaults) : Prop where
  strategy : faults.reason.Suffice (max settings.pipeline.maxStageAttempts 1) 0
    (planned settings request services clock).2.calls.length
  queries : ∀ strategy log, (planned settings request services clock).1.output = .ok strategy →
    Search.Asked settings.search strategy.strategies
      ⟨(planned settings request services clock).2.clock, services.search, []⟩ log →
    faults.search.Within (max settings.search.maxAttempts 1) 0 (log.map (·.2.attempts))
  batches : ∀ strategy search rounds,
    (planned settings request services clock).1.output = .ok strategy →
    (sought settings request services clock strategy).1 = .ok search →
    Assess.Asked settings.assessment settings.pipeline.backoffBase strategy search.patents
      { (planned settings request services clock).2 with
        clock := (sought settings request services clock strategy).2.clock } rounds →
    faults.reason.Within (max settings.assessment.maxAttempts 1)
      (planned settings request services clock).2.calls.length (rounds.map (·.calls.length))
  landscape : ∀ strategy search assessment,
    (planned settings request services clock).1.output = .ok strategy →
    (sought settings request services clock strategy).1 = .ok search →
    (assessed settings request services clock strategy search).1.output = .ok assessment →
    faults.reason.Suffice (max settings.pipeline.maxStageAttempts 1)
      (assessed settings request services clock strategy search).2.calls.length
      (analysed settings request services clock strategy search assessment).2.calls.length

variable {settings request services clock} {clock' : Clock}

section Agreement

variable (never : NeverCancelled services clock) (calm' : clock'.IsCalm) (passing : faults.Passing)
  (spared : Spared settings request services clock faults)

include never calm' passing spared

theorem agree_planned :
    Agree faults.reason StageRun.uncounted (planned settings request services clock)
      (planned settings request (services.withFaults faults) clock') :=
  Stage.agree_run passing.reason (.beginning ⟨never.uncancelled, never.unset⟩ calm' never.reasoning)
    (budget settings) _ spared.strategy

variable {strategy : StrategyDocument}
  (planning : (planned settings request services clock).1.output = .ok strategy)

include planning

theorem agree_sought :
    Agree faults.search (Except.map SearchOutcome.uncounted)
      (sought settings request services clock strategy)
      (sought settings request (services.withFaults faults) clock' strategy) := by
  have inStep := (agree_planned never calm' passing spared).inStep
  exact Search.agree_run passing.search strategy.strategies
    (.beginning inStep.calm.clock inStep.delayed.clock never.searching)
    fun log => spared.queries strategy log planning

theorem alike_found {search search' : SearchOutcome} (same : search'.uncounted = search.uncounted) :
    (found settings request services clock strategy search).Alike faults
      (found settings request (services.withFaults faults) clock' strategy search') := by
  have agree := agree_planned never calm' passing spared
  have agreeSearch := agree_sought never calm' passing spared planning
  have patents : search'.patents = search.patents := congrArg (·.patents) same
  have begun : (Course.beginning settings request services clock).Alike faults
      (Course.beginning settings request (services.withFaults faults) clock') :=
    { metadata := rfl
      trace := rfl
      milestones := rfl
      reasoner := .beginning ⟨never.uncancelled, never.unset⟩ calm' never.reasoning
      service := .beginning ⟨never.uncancelled, never.unset⟩ calm' never.searching }
  have ready := ((begun.reach .strategyBegun).reach .strategyReady).executed .strategy
    (StageRun.mk.inj agree.same).2.1
  unfold found
  dsimp only
  rw [patents]
  exact (((ready.reach .searchBegun).reach (.searchReady search.patents.length)).searched
    settings.search.maxPatents same).ofSessions
      (agree.inStep.ofClock agreeSearch.inStep.calm.clock agreeSearch.inStep.delayed.clock)
      agreeSearch.inStep

end Agreement

theorem eq_error_of_map {α β : Type} {read : α → β} {result : Except RunError α} {error : RunError}
    (same : result.map read = (.error error : Except RunError α).map read) :
    result = .error error := by
  cases result with
  | error other => exact congrArg Except.error (Except.error.inj same)
  | ok value => cases same

theorem exists_ok_of_map {α β : Type} {read : α → β} {result : Except RunError α} {value : α}
    (same : result.map read = (.ok value : Except RunError α).map read) :
    ∃ other, result = .ok other ∧ read other = read value := by
  cases result with
  | error other => cases same
  | ok other => exact ⟨other, rfl, Except.ok.inj same⟩

/-- **Recovered faults are invisible.** An inquiry that nobody cancels and that is spared comes to
the same with the faults, and asks the same. -/
theorem alike_run (settings : RunSettings) (request : Request) (services : Services)
    (clock clock' : Clock) (faults : ServiceFaults) (never : NeverCancelled services clock)
    (calm' : clock'.IsCalm) (passing : faults.Passing)
    (spared : Spared settings request services clock faults) :
    Alike faults (run settings request services clock)
      (run settings request (services.withFaults faults) clock') := by
  cases valid : request.defect? settings.pipeline.minDisclosure with
  | some defect =>
    rw [run_of_defect valid, run_of_defect valid]
    exact ⟨rfl, rfl, rfl, rfl⟩
  | none =>
    have agree := agree_planned never calm' passing spared
    have planning' : (planned settings request (services.withFaults faults) clock').1.output =
        (planned settings request services clock).1.output := (StageRun.mk.inj agree.same).1
    cases planning : (planned settings request services clock).1.output with
    | error error =>
      rw [run_of_planned_error valid planning,
        run_of_planned_error valid (planning'.trans planning)]
      exact ⟨rfl, rfl, agree.inStep.questions, rfl⟩
    | ok strategy =>
      have agreeSearch := agree_sought never calm' passing spared planning
      have planning' := planning'.trans planning
      have same := agreeSearch.same
      cases searching : (sought settings request services clock strategy).1 with
      | error error =>
        rw [searching] at same
        have searching' := eq_error_of_map same
        rw [run_of_sought_error valid planning searching,
          run_of_sought_error valid planning' searching']
        exact ⟨rfl, rfl, agree.inStep.questions, agreeSearch.inStep.questions⟩
      | ok search =>
        rw [searching] at same
        obtain ⟨search', searching', same⟩ := exists_ok_of_map same
        rw [run_of_sought valid planning searching, run_of_sought valid planning' searching']
        exact alike_assess same (alike_found never calm' passing spared planning same) passing
          (fun rounds => spared.batches strategy search rounds planning searching)
          fun assessment => spared.landscape strategy search assessment planning searching

end Run

/-! ### A fault before every call -/

/-- The reasoning service is slow before each answer, and the search busy. -/
def roadFaults : ServiceFaults :=
  { reason := fun _ => [⟨5, .timeout "slow"⟩]
    search := fun _ => [⟨0, .status 503 none "busy"⟩] }

theorem patents_road {search : SearchOutcome}
    (searching : (sought hastySettings hastyRequest roadServices .start roadStrategy).1 =
      .ok search) : search.patents = [roadPatent] := by
  have sought := (Prod.mk.inj sought_road).1
  rw [searching] at sought
  exact Option.some.inj sought

theorem length_assessed_road {search : SearchOutcome} (found : search.patents = [roadPatent]) :
    (assessed hastySettings hastyRequest roadServices .start roadStrategy
      search).2.calls.length = 2 := by
  rw [assessed, planned_road, (Prod.mk.inj sought_road).2, found]
  decide +kernel

theorem single_road {search : SearchOutcome} (found : search.patents = [roadPatent])
    {rounds : List Assess.Round}
    (asked : Assess.Asked hastySettings.assessment hastySettings.pipeline.backoffBase roadStrategy
      search.patents { roadReasoner with clock := ⟨6667, false, none⟩ } rounds) :
    ∀ round ∈ rounds, round.calls.length = 1 := by
  have few : rounds.length ≤ 1 := by
    have one : (Assess.batches hastySettings.assessment [roadPatent]).length = 1 := by
      decide +kernel
    have begins := asked.begins.length_le
    rwa [List.length_map, found, one] at begins
  have calls : 1 + (rounds.flatMap (·.calls)).length = 1 + 1 := by
    have length := length_assessed_road found
    rw [assessed, planned_road, (Prod.mk.inj sought_road).2, asked.done.calls,
      List.length_append] at length
    exact length
  obtain _ | ⟨round, _ | ⟨other, rest⟩⟩ := rounds
  · simp
  · simpa using Nat.add_left_cancel calls
  · simp at few

/-- With two attempts for each of its calls the inquiry about the road is spared. -/
theorem spared_road : Spared hastySettings hastyRequest roadServices .start roadFaults where
  strategy := by
    rw [planned_road]
    exact ⟨1, rfl, by decide⟩
  queries := by
    intro strategy log _ asked
    refine Faults.within_of_single
      (fun _ => (by decide : 1 + 1 ≤ max hastySettings.search.maxAttempts 1)) ?_
    rw [planned_road] at asked
    have calm : IsCalm (⟨.start, roadServices.search, []⟩ : Search.Service) :=
      ⟨⟨rfl, rfl⟩, never_cancelled_road.searching⟩
    have single := asked.sent.attempts_eq_one calm (by rintro (_ | n) <;> exact ⟨_, rfl⟩)
    exact List.forall_mem_map.2 single
  batches := by
    intro strategy search rounds planning searching asked
    rw [planned_road] at planning
    obtain rfl : roadStrategy = strategy := Except.ok.inj planning
    have found := patents_road searching
    rw [(Prod.mk.inj sought_road).2, planned_road] at asked
    refine Faults.within_of_single
      (fun _ => (by decide : 1 + 1 ≤ max hastySettings.assessment.maxAttempts 1)) ?_
    exact List.forall_mem_map.2 (single_road found asked)
  landscape := by
    intro strategy search assessment planning searching assessing
    rw [planned_road] at planning
    obtain rfl : roadStrategy = strategy := Except.ok.inj planning
    have found := patents_road searching
    have rated : assessment.assessments = [roadAssessment] := by
      have assessed := assessed_road found
      rw [assessing] at assessed
      exact Option.some.inj assessed
    have after : (analysed hastySettings hastyRequest roadServices .start roadStrategy search
        assessment).2.calls.length = 3 := by
      rw [analysed, assessed, planned_road, (Prod.mk.inj sought_road).2, found, rated]
      decide +kernel
    rw [length_assessed_road found, after]
    exact ⟨1, rfl, by decide⟩

/-- With a fault before every call the inquiry about the road comes to the same report. -/
theorem alike_run_road :
    NeverCancelled roadServices .start ∧ Clock.start.IsCalm ∧ roadFaults.Passing ∧
      Spared hastySettings hastyRequest roadServices .start roadFaults ∧
      Alike roadFaults (run hastySettings hastyRequest roadServices .start)
        (run hastySettings hastyRequest (roadServices.withFaults roadFaults) .start) := by
  have passing : roadFaults.Passing :=
    { reason := fun _ fault member => by
        obtain rfl : fault = ⟨5, .timeout "slow"⟩ := List.mem_singleton.1 member
        exact .inr ⟨"slow", rfl⟩
      search := fun _ fault member => by
        obtain rfl : fault = ⟨0, .status 503 none "busy"⟩ := List.mem_singleton.1 member
        exact ⟨503, none, "busy", rfl, .inr (by decide)⟩ }
  exact ⟨never_cancelled_road, ⟨rfl, rfl⟩, passing, spared_road,
    alike_run hastySettings hastyRequest roadServices .start .start roadFaults never_cancelled_road
      ⟨rfl, rfl⟩ passing spared_road⟩

end Inquiry

end PriorArt
