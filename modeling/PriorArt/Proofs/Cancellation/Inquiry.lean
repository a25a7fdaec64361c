import PriorArt.Proofs.Cancellation.Course

/-!
# Cancelled inquiries

An inquiry that is cancelled before it has returned ends with the error that says so, and calls
nobody after that; one that is not cancelled in time does what it does when nobody cancels.

1. `CancelledInTime`: the inquiry is cancelled before it has returned, beside what it comes to when
   nobody cancels.
2. `NoneAfter`: no call is made after the cancellation.
3. `cancellation`: both for every inquiry with a request that is not refused.
-/

namespace PriorArt

open Session

def Services.calm (services : Services) : Services :=
  { services with
    reason := fun n => (services.reason n).calm
    search := fun n => (services.search n).calm }

namespace Inquiry

/-- What came of the inquiry, with the clock that nobody cancels. -/
def calm (inquiry : Inquiry) : Inquiry :=
  { inquiry with clock := inquiry.clock.calm }

/-- The inquiry is cancelled before it has returned, where it comes to `base` when nobody cancels:
before it begins, at a time before its end, or by one of the calls. -/
inductive CancelledInTime (services : Services) (clock : Clock) (base : Inquiry) : Prop
  | before : clock.cancelled = true → CancelledInTime services clock base
  | timed (moment : Nat) :
      moment ∈ clock.cancelAt → moment < base.clock.now → CancelledInTime services clock base
  | reasoning (n : Nat) :
      n < base.reasonerCalls.length → (services.reason n).cancels = true →
      CancelledInTime services clock base
  | searching (n : Nat) :
      n < base.searchCalls.length → (services.search n).cancels = true →
      CancelledInTime services clock base

section Run

variable (settings : RunSettings) (request : Request) (services : Services) (clock : Clock)

/-- No call of the inquiry was made after the cancellation. -/
structure NoneAfter (inquiry : Inquiry) : Prop where
  /-- An inquiry that is cancelled before it begins calls nobody. -/
  before : clock.cancelled = true → inquiry.reasonerCalls = [] ∧ inquiry.searchCalls = []
  /-- No call was made later than the time of the cancellation. -/
  timed : ∀ moment ∈ clock.cancelAt,
    (∀ call ∈ inquiry.reasonerCalls, call.time ≤ moment) ∧
      ∀ call ∈ inquiry.searchCalls, call.time ≤ moment
  /-- A call of the reasoning service that cancels is its last one, and if it was made for the
  strategy nothing was searched for. -/
  reasoning : ∀ n < inquiry.reasonerCalls.length, (services.reason n).cancels = true →
    inquiry.reasonerCalls.length = n + 1 ∧
      (n < (planned settings request services clock).2.calls.length → inquiry.searchCalls = [])
  /-- A call of the patent-search service that cancels is its last one, and nothing was assessed
  after it. -/
  searching : ∀ n < inquiry.searchCalls.length, (services.search n).cancels = true →
    inquiry.searchCalls.length = n + 1 ∧
      inquiry.reasonerCalls = (planned settings request services clock).2.calls

/-- What becomes of an inquiry that is cancelled before it has returned. -/
structure Interrupted (inquiry base : Inquiry) : Prop where
  result : inquiry.result = .error .cancelled
  cause : CancelledInTime services clock base
  reasonerCalls : inquiry.reasonerCalls <+: base.reasonerCalls
  searchCalls : inquiry.searchCalls <+: base.searchCalls
  noneAfter : NoneAfter settings request services clock inquiry

/-- What becomes of an inquiry that is not cancelled before it has returned. -/
structure Uninterrupted (inquiry base : Inquiry) : Prop where
  result : inquiry.result ≠ .error .cancelled
  same : base = inquiry.calm
  reasoner : Live (⟨inquiry.clock, services.reason, inquiry.reasonerCalls⟩ : Reasoner)
  service : Live (⟨inquiry.clock, services.search, inquiry.searchCalls⟩ : Search.Service)
  cancelAt : inquiry.clock.cancelAt = clock.cancelAt

end Run

variable {settings : RunSettings} {request : Request} {services : Services} {clock : Clock}
  {inquiry base : Inquiry}

theorem Uninterrupted.not_cancelledInTime
    (uninterrupted : Uninterrupted services clock inquiry base)
    (uncancelled : clock.cancelled = false) : ¬ CancelledInTime services clock base := by
  obtain ⟨-, rfl, reasoner, service, cancelAt⟩ := uninterrupted
  rintro (cancelled | ⟨moment, set, before⟩ | ⟨n, made, cancels⟩ | ⟨n, made, cancels⟩)
  · exact absurd cancelled (uncancelled ▸ Bool.false_ne_true)
  · have inTime := reasoner.clock.inTime moment (cancelAt ▸ set)
    exact absurd before (Nat.not_lt_of_le inTime)
  · exact absurd cancels (reasoner.quiet n made ▸ Bool.false_ne_true)
  · exact absurd cancels (service.quiet n made ▸ Bool.false_ne_true)

theorem Uninterrupted.noneAfter (uninterrupted : Uninterrupted services clock inquiry base)
    (uncancelled : clock.cancelled = false) :
    NoneAfter settings request services clock inquiry where
  before := fun cancelled => absurd cancelled (uncancelled ▸ Bool.false_ne_true)
  timed := by
    intro moment set
    rw [← uninterrupted.cancelAt] at set
    exact ⟨uninterrupted.reasoner.timed set, uninterrupted.service.timed set⟩
  reasoning := by
    intro n made cancels
    exact absurd cancels (uninterrupted.reasoner.quiet n made ▸ Bool.false_ne_true)
  searching := by
    intro n made cancels
    exact absurd cancels (uninterrupted.service.quiet n made ▸ Bool.false_ne_true)

/-! ## How far the calm inquiry goes -/

section Extends

variable (valid : request.defect? settings.pipeline.minDisclosure = none)

include valid

theorem extends_run_sought {strategy : StrategyDocument}
    (planning : (planned settings request services clock).1.output = .ok strategy) :
    (planned settings request services clock).2.calls <+:
        (run settings request services clock).reasonerCalls ∧
      (run settings request services clock).searchCalls =
        (sought settings request services clock strategy).2.calls ∧
      (sought settings request services clock strategy).2.clock.now ≤
        (run settings request services clock).clock.now := by
  cases searching : (sought settings request services clock strategy).1 with
  | error error =>
    rw [run_of_sought_error valid planning searching]
    exact ⟨List.prefix_rfl, rfl, Nat.le_refl _⟩
  | ok search =>
    rw [run_of_sought valid planning searching, searchCalls_assess]
    have further := extends_assess settings (request.within settings.pipeline.maxDisclosure) strategy
      search (found settings request services clock strategy search)
    exact ⟨further.calls, rfl, further.now⟩

theorem extends_run_planned :
    (planned settings request services clock).2.calls <+:
        (run settings request services clock).reasonerCalls ∧
      (planned settings request services clock).2.clock.now ≤
        (run settings request services clock).clock.now := by
  cases planning : (planned settings request services clock).1.output with
  | error error =>
    rw [run_of_planned_error valid planning]
    exact ⟨List.prefix_rfl, Nat.le_refl _⟩
  | ok strategy =>
    obtain ⟨calls, -, later⟩ := extends_run_sought valid planning
    have further := Search.extends_run settings.search strategy.strategies
      ⟨(planned settings request services clock).2.clock, services.search, []⟩
    exact ⟨calls, Nat.le_trans further.now later⟩

end Extends

/-! ## Where an inquiry is interrupted -/

/-- A cancellation takes no tag. -/
theorem tagged_of_isCancelled {error : RunError} (cancelled : error.isCancelled = true)
    (stage : Stage) : error.tagged stage = .cancelled := by
  unfold RunError.tagged
  rw [if_pos cancelled]

theorem tagged_ne_cancelled {error : RunError} (kept : ¬ error.isCancelled = true)
    (stage : Stage) : error.tagged stage ≠ .cancelled := by
  unfold RunError.tagged
  rw [if_neg kept]
  exact RunError.noConfusion

theorem made_of_last {Question : Type} {calls others : List (Call Question)}
    (common : calls <+: others) {n : Nat} (last : calls.length = n + 1) : n < others.length :=
  Nat.lt_of_lt_of_le (last ▸ Nat.lt_succ_self n) common.length_le

theorem continues_sought {strategy : StrategyDocument}
    (step : Continues (⟨clock, services.reason, []⟩ : Reasoner)
      (planned settings request services clock).2)
    (searched : Continues
      (⟨(planned settings request services clock).2.clock, services.search, []⟩ : Search.Service)
      (sought settings request services clock strategy).2)
    (search : SearchOutcome) :
    Continues (⟨clock, services.reason, []⟩ : Reasoner)
      (found settings request services clock strategy search).reasoner :=
  step.trans (.ofClock step.live searched rfl)

section Interrupted

variable (live : clock.Live)

include live

theorem interrupted_planning
    (valid : request.defect? settings.pipeline.minDisclosure = none)
    (stopped : Stopped (⟨clock, services.reason, []⟩ : Reasoner)
      (planned settings request services clock).2
      (planned settings request services.calm clock.calm).2)
    (gone : GaveUp (planned settings request services clock).1.output) :
    Interrupted settings request services clock (run settings request services clock)
      (run settings request services.calm clock.calm) := by
  have ⟨calls, later⟩ : (planned settings request services.calm clock.calm).2.calls <+:
        (run settings request services.calm clock.calm).reasonerCalls ∧
      (planned settings request services.calm clock.calm).2.clock.now ≤
        (run settings request services.calm clock.calm).clock.now := extends_run_planned valid
  cases planning : (planned settings request services clock).1.output with
  | ok strategy =>
    rw [planning] at gone
    exact absurd gone (gaveUp_ok strategy)
  | error error =>
    rw [planning] at gone
    rw [run_of_planned_error valid planning, tagged_of_isCancelled gone]
    generalize run settings request services.calm clock.calm = base at calls later ⊢
    have common := stopped.common.trans calls
    exact
      { result := rfl
        cause := by
          rcases stopped.cause with ⟨moment, set, passed⟩ | ⟨n, last, cancels⟩
          · exact .timed moment set (Nat.lt_of_lt_of_le passed later)
          · exact .reasoning n (made_of_last common last) cancels
        reasonerCalls := common
        searchCalls := List.nil_prefix
        noneAfter :=
          { before := fun cancelled => absurd cancelled (live.uncancelled ▸ Bool.false_ne_true)
            timed := fun moment set =>
              ⟨stopped.timed set, fun call member => absurd member List.not_mem_nil⟩
            reasoning := fun n made cancels => ⟨stopped.last made cancels, fun _ => rfl⟩
            searching := fun n made => absurd made (Nat.not_lt_zero n) } }

theorem interrupted_search {strategy : StrategyDocument}
    (valid : request.defect? settings.pipeline.minDisclosure = none)
    (step : Continues (⟨clock, services.reason, []⟩ : Reasoner)
      (planned settings request services clock).2)
    (same : planned settings request services.calm clock.calm =
      ((planned settings request services clock).1,
        (planned settings request services clock).2.calm))
    (planning : (planned settings request services clock).1.output = .ok strategy)
    (stopped : Stopped
      (⟨(planned settings request services clock).2.clock, services.search, []⟩ : Search.Service)
      (sought settings request services clock strategy).2
      (sought settings request services.calm clock.calm strategy).2)
    (gone : GaveUp (sought settings request services clock strategy).1) :
    Interrupted settings request services clock (run settings request services clock)
      (run settings request services.calm clock.calm) := by
  have calmPlanning :
      (planned settings request services.calm clock.calm).1.output = .ok strategy := by
    rw [same]
    exact planning
  obtain ⟨calls, searched, later⟩ := extends_run_sought valid calmPlanning
  rw [same] at calls
  cases searching : (sought settings request services clock strategy).1 with
  | ok search =>
    rw [searching] at gone
    exact absurd gone (gaveUp_ok search)
  | error error =>
    rw [searching] at gone
    rw [run_of_sought_error valid planning searching, tagged_of_isCancelled gone]
    generalize run settings request services.calm clock.calm = base at calls searched later ⊢
    have common := stopped.common
    rw [← searched] at common
    have timed : ∀ moment ∈ clock.cancelAt,
        moment ∈ (planned settings request services clock).2.clock.cancelAt := by
      rw [step.cancelAt]
      exact fun moment set => set
    have quiet := step.live.quiet
    rw [step.answer] at quiet
    exact
      { result := rfl
        cause := by
          rcases stopped.cause with ⟨moment, set, passed⟩ | ⟨n, last, cancels⟩
          · exact .timed moment (step.cancelAt ▸ set) (Nat.lt_of_lt_of_le passed later)
          · exact .searching n (made_of_last common last) cancels
        reasonerCalls := calls
        searchCalls := common
        noneAfter :=
          { before := fun cancelled => absurd cancelled (live.uncancelled ▸ Bool.false_ne_true)
            timed := fun moment set =>
              ⟨step.live.timed (timed moment set), stopped.timed (timed moment set)⟩
            reasoning := fun n made cancels =>
              absurd cancels (quiet n made ▸ Bool.false_ne_true)
            searching := fun n made cancels => ⟨stopped.last made cancels, rfl⟩ } }

theorem interrupted_reasoning {strategy : StrategyDocument} {search : SearchOutcome}
    (step : Continues (⟨clock, services.reason, []⟩ : Reasoner)
      (planned settings request services clock).2)
    (searched : Continues
      (⟨(planned settings request services clock).2.clock, services.search, []⟩ : Search.Service)
      (sought settings request services clock strategy).2)
    (run_eq : run settings request services clock =
      assess settings (request.within settings.pipeline.maxDisclosure) strategy search
        (found settings request services clock strategy search))
    (base_eq : run settings request services.calm clock.calm =
      assess settings (request.within settings.pipeline.maxDisclosure) strategy search
        (found settings request services clock strategy search).calm)
    (stopped : Stopped (found settings request services clock strategy search).reasoner
      ((found settings request services clock strategy search).ended
        (run settings request services clock)).2
      ((found settings request services clock strategy search).calm.ended
        (run settings request services.calm clock.calm)).2)
    (gone : (run settings request services clock).result = .error .cancelled) :
    Interrupted settings request services clock (run settings request services clock)
      (run settings request services.calm clock.calm) := by
  have stopped := (continues_sought step searched search).stopped stopped
  have sent : (run settings request services clock).searchCalls =
      (sought settings request services clock strategy).2.calls := by
    rw [run_eq, searchCalls_assess]
    rfl
  have calmSent : (run settings request services.calm clock.calm).searchCalls =
      (sought settings request services clock strategy).2.calls := by
    rw [base_eq, searchCalls_assess]
    rfl
  have planQuiet := step.live.quiet
  rw [step.answer] at planQuiet
  have searchQuiet := searched.live.quiet
  rw [searched.answer] at searchQuiet
  exact
    { result := gone
      cause := by
        rcases stopped.cause with ⟨moment, set, passed⟩ | ⟨n, last, cancels⟩
        · exact .timed moment set passed
        · exact .reasoning n (made_of_last stopped.common last) cancels
      reasonerCalls := stopped.common
      searchCalls := by
        have same := sent.trans calmSent.symm
        exact same ▸ List.prefix_rfl
      noneAfter :=
        { before := fun cancelled => absurd cancelled (live.uncancelled ▸ Bool.false_ne_true)
          timed := by
            intro moment set
            refine ⟨stopped.timed set, ?_⟩
            rw [sent]
            refine searched.live.timed ?_
            rw [searched.cancelAt]
            exact step.cancelAt.symm ▸ set
          reasoning := fun n made cancels =>
            ⟨stopped.last made cancels, fun before =>
              absurd cancels (planQuiet n before ▸ Bool.false_ne_true)⟩
          searching := by
            intro n made cancels
            rw [sent] at made
            exact absurd cancels (searchQuiet n made ▸ Bool.false_ne_true) } }

end Interrupted

/-! ## Interrupted or not -/

/-- The calm inquiry goes on from the calm sessions. -/
theorem found_calm {strategy : StrategyDocument} (search : SearchOutcome)
    (plannedCalm : planned settings request services.calm clock.calm =
      ((planned settings request services clock).1,
        (planned settings request services clock).2.calm))
    (soughtCalm : sought settings request services.calm clock.calm strategy =
      ((sought settings request services clock strategy).1,
        (sought settings request services clock strategy).2.calm)) :
    found settings request services.calm clock.calm strategy search =
      (found settings request services clock strategy search).calm := by
  unfold found
  rw [plannedCalm, soughtCalm]
  rfl

theorem eq_calm_of_ended {course : Course}
    (same : course.calm.ended base =
      ((course.ended inquiry).1, (course.ended inquiry).2.calm)) : base = inquiry.calm := by
  obtain ⟨result, milestones, reasonerCalls, searchCalls, clock⟩ := inquiry
  obtain ⟨calmResult, calmMilestones, calmReasonerCalls, calmSearchCalls, calmClock⟩ := base
  simp only [Course.ended, ofReasoner, Prod.mk.injEq] at same
  obtain ⟨⟨rfl, rfl, rfl⟩, sessions⟩ := same
  cases sessions
  rfl

section Cases

variable (valid : request.defect? settings.pipeline.minDisclosure = none)
  (step : Continues (⟨clock, services.reason, []⟩ : Reasoner)
    (planned settings request services clock).2)
  (plannedCalm : planned settings request services.calm clock.calm =
    ((planned settings request services clock).1,
      (planned settings request services clock).2.calm))

include valid step plannedCalm

theorem uninterrupted_of_planned_error {error : RunError}
    (failed : (planned settings request services clock).1.output = .error error)
    (kept : ¬ error.isCancelled = true) :
    Uninterrupted services clock (run settings request services clock)
      (run settings request services.calm clock.calm) := by
  have calmFailed :
      (planned settings request services.calm clock.calm).1.output = .error error := by
    rw [plannedCalm]
    exact failed
  rw [run_of_planned_error valid failed, run_of_planned_error valid calmFailed, plannedCalm]
  exact
    { result := fun cancelled => tagged_ne_cancelled kept .strategy (Except.error.inj cancelled)
      same := rfl
      reasoner := step.live_answer
      service := .opening step.live.clock services.search
      cancelAt := step.cancelAt }

variable {strategy : StrategyDocument}
  (planning : (planned settings request services clock).1.output = .ok strategy)

include planning

variable
  (searched : Continues
    (⟨(planned settings request services clock).2.clock, services.search, []⟩ : Search.Service)
    (sought settings request services clock strategy).2)
  (soughtCalm : sought settings request services.calm clock.calm strategy =
    ((sought settings request services clock strategy).1,
      (sought settings request services clock strategy).2.calm))

include searched soughtCalm

theorem uninterrupted_of_sought_error {error : RunError}
    (failed : (sought settings request services clock strategy).1 = .error error)
    (kept : ¬ error.isCancelled = true) :
    Uninterrupted services clock (run settings request services clock)
      (run settings request services.calm clock.calm) := by
  have calmPlanning :
      (planned settings request services.calm clock.calm).1.output = .ok strategy := by
    rw [plannedCalm]
    exact planning
  have calmFailed :
      (sought settings request services.calm clock.calm strategy).1 = .error error := by
    rw [soughtCalm]
    exact failed
  rw [run_of_sought_error valid planning failed,
    run_of_sought_error valid calmPlanning calmFailed, plannedCalm, soughtCalm]
  exact
    { result := fun cancelled => tagged_ne_cancelled kept .search (Except.error.inj cancelled)
      same := rfl
      reasoner := (continues_sought step searched default).live_answer
      service := searched.live_answer
      cancelAt := searched.cancelAt.trans step.cancelAt }

omit step searched in
theorem eq_assess_found {search : SearchOutcome}
    (searching : (sought settings request services clock strategy).1 = .ok search) :
    run settings request services clock =
        assess settings (request.within settings.pipeline.maxDisclosure) strategy search
          (found settings request services clock strategy search) ∧
      run settings request services.calm clock.calm =
        assess settings (request.within settings.pipeline.maxDisclosure) strategy search
          (found settings request services clock strategy search).calm := by
  have calmPlanning :
      (planned settings request services.calm clock.calm).1.output = .ok strategy := by
    rw [plannedCalm]
    exact planning
  have calmSearching :
      (sought settings request services.calm clock.calm strategy).1 = .ok search := by
    rw [soughtCalm]
    exact searching
  refine ⟨run_of_sought valid planning searching, ?_⟩
  rw [run_of_sought valid calmPlanning calmSearching, found_calm search plannedCalm soughtCalm]

theorem uninterrupted_of_assessed {search : SearchOutcome}
    (searching : (sought settings request services clock strategy).1 = .ok search)
    (going : (run settings request services clock).result ≠ .error .cancelled) :
    Uninterrupted services clock (run settings request services clock)
      (run settings request services.calm clock.calm) := by
  obtain ⟨run_eq, base_eq⟩ := eq_assess_found valid plannedCalm planning soughtCalm searching
  have onward := continues_sought step searched search
  have tail := follows_assess settings (request.within settings.pipeline.maxDisclosure) strategy
    search onward.live
  rw [run_eq] at going
  obtain ⟨same, further⟩ := tail.continued going
  rw [run_eq, base_eq]
  have whole := onward.trans further
  exact
    { result := going
      same := eq_calm_of_ended same
      reasoner := whole.live_answer
      service := by
        have moved := searched.trans (.ofClock searched.live further rfl)
        rw [searchCalls_assess]
        exact moved.live_answer
      cancelAt := whole.cancelAt }

end Cases

theorem interrupted_or_not (valid : request.defect? settings.pipeline.minDisclosure = none)
    (live : clock.Live) :
    Interrupted settings request services clock (run settings request services clock)
        (run settings request services.calm clock.calm) ∨
      Uninterrupted services clock (run settings request services clock)
        (run settings request services.calm clock.calm) := by
  have plans : Follows (fun run => GaveUp run.output) (⟨clock, services.reason, []⟩ : Reasoner)
      (planned settings request services clock)
      (planned settings request services.calm clock.calm) :=
    Planning.follows_run (budget settings) (request.within settings.pipeline.maxDisclosure)
      (.opening live services.reason)
  by_cases gone : GaveUp (planned settings request services clock).1.output
  · exact .inl (interrupted_planning live valid (plans.stopped gone) gone)
  · obtain ⟨plannedCalm, step⟩ := plans.continued gone
    cases planning : (planned settings request services clock).1.output with
    | error error =>
      rw [planning] at gone
      exact .inr (uninterrupted_of_planned_error valid step plannedCalm planning gone)
    | ok strategy =>
      have seeks : Follows (fun result => GaveUp result)
          (⟨(planned settings request services clock).2.clock, services.search, []⟩ :
            Search.Service)
          (sought settings request services clock strategy)
          (sought settings request services.calm clock.calm strategy) := by
        unfold sought
        rw [plannedCalm]
        exact Search.follows_run settings.search strategy.strategies
          (.opening step.live.clock services.search)
      by_cases lost : GaveUp (sought settings request services clock strategy).1
      · exact .inl
          (interrupted_search live valid step plannedCalm planning (seeks.stopped lost) lost)
      · obtain ⟨soughtCalm, searched⟩ := seeks.continued lost
        cases searching : (sought settings request services clock strategy).1 with
        | error error =>
          rw [searching] at lost
          exact .inr (uninterrupted_of_sought_error valid step plannedCalm planning searched
            soughtCalm searching lost)
        | ok search =>
          by_cases cancelled : (run settings request services clock).result = .error .cancelled
          · obtain ⟨run_eq, base_eq⟩ :=
              eq_assess_found valid plannedCalm planning soughtCalm searching
            refine .inl (interrupted_reasoning live step searched run_eq base_eq ?_ cancelled)
            rw [run_eq] at cancelled ⊢
            rw [base_eq]
            exact (follows_assess _ _ _ _ (continues_sought step searched search).live).stopped
              cancelled
          · exact .inr (uninterrupted_of_assessed valid step plannedCalm planning searched
              soughtCalm searching cancelled)

/-! ## The cancellation of an inquiry -/

theorem planned_of_cancelled (cancelled : clock.cancelled = true) :
    (planned settings request services clock).1.output = .error .cancelled ∧
      (planned settings request services clock).2 = ⟨clock, services.reason, []⟩ := by
  unfold planned Planning.run Stage.run
  rw [Stage.attempt, Session.ask_of_cancelled cancelled]
  exact ⟨rfl, rfl⟩

theorem run_of_cancelled (valid : request.defect? settings.pipeline.minDisclosure = none)
    (cancelled : clock.cancelled = true) :
    run settings request services clock =
      { result := .error .cancelled
        milestones := [.strategyBegun]
        reasonerCalls := []
        searchCalls := []
        clock } := by
  have ⟨failed, session⟩ : (planned settings request services clock).1.output = .error .cancelled ∧
      (planned settings request services clock).2 = ⟨clock, services.reason, []⟩ :=
    planned_of_cancelled cancelled
  rw [run_of_planned_error valid failed, session]
  rfl

/-- **Cancellation.** An inquiry whose request is not refused ends with the error that it was
cancelled exactly if it is cancelled before it has returned. No call is made after the cancellation,
and the calls made before it are the first ones of the inquiry that nobody cancels; without a
cancellation in time, that is the inquiry. -/
theorem cancellation (settings : RunSettings) (request : Request) (services : Services)
    (clock : Clock) (valid : request.defect? settings.pipeline.minDisclosure = none)
    (inTime : ∀ moment ∈ clock.cancelAt, clock.now ≤ moment) :
    let inquiry := run settings request services clock
    let base := run settings request services.calm clock.calm
    (inquiry.result = .error .cancelled ↔ CancelledInTime services clock base) ∧
      NoneAfter settings request services clock inquiry ∧
      inquiry.reasonerCalls <+: base.reasonerCalls ∧
      inquiry.searchCalls <+: base.searchCalls ∧
      (¬ CancelledInTime services clock base → base = inquiry.calm) := by
  intro inquiry base
  rcases Bool.eq_false_or_eq_true clock.cancelled with cancelled | uncancelled
  · have halted : inquiry = ⟨.error .cancelled, [.strategyBegun], [], [], clock⟩ :=
      run_of_cancelled valid cancelled
    rw [halted]
    refine ⟨iff_of_true rfl (.before cancelled), ?_, List.nil_prefix, List.nil_prefix, ?_⟩
    · exact
        { before := fun _ => ⟨rfl, rfl⟩
          timed := fun moment _ =>
            ⟨fun call made => absurd made List.not_mem_nil,
              fun call made => absurd made List.not_mem_nil⟩
          reasoning := fun n made => absurd made (Nat.not_lt_zero n)
          searching := fun n made => absurd made (Nat.not_lt_zero n) }
    · exact fun never => absurd (.before cancelled) never
  · have cases : Interrupted settings request services clock inquiry base ∨
        Uninterrupted services clock inquiry base :=
      interrupted_or_not valid ⟨uncancelled, inTime⟩
    rcases cases with cut | uncut
    · exact ⟨iff_of_true cut.result cut.cause, cut.noneAfter, cut.reasonerCalls, cut.searchCalls,
        fun never => absurd cut.cause never⟩
    · have never := uncut.not_cancelledInTime uncancelled
      refine ⟨iff_of_false uncut.result never, uncut.noneAfter uncancelled, ?_, ?_,
        fun _ => uncut.same⟩
      · exact uncut.same ▸ List.prefix_rfl
      · exact uncut.same ▸ List.prefix_rfl

/-! ### An inquiry that is cancelled while its first call is under way -/

def hastySettings : RunSettings :=
  ⟨.default, .default, { PipelineSettings.default with minDisclosure := 5 }⟩

def hastyRequest : Request :=
  ⟨"17", "A seal that heals.", none⟩

def hastyServices : Services :=
  { model := "slow"
    reason := fun _ => ⟨1000, false, .error .unreadableBody⟩
    search := fun _ => ⟨0, false, .error .unreadableBody⟩ }

def hastyClock : Clock :=
  ⟨0, false, some 400⟩

theorem cancellation_hasty :
    hastyRequest.defect? hastySettings.pipeline.minDisclosure = none ∧
      (∀ moment ∈ hastyClock.cancelAt, hastyClock.now ≤ moment) ∧
      (run hastySettings hastyRequest hastyServices hastyClock).result = .error .cancelled := by
  have valid : hastyRequest.defect? hastySettings.pipeline.minDisclosure = none := by
    decide +kernel
  have inTime : ∀ moment ∈ hastyClock.cancelAt, hastyClock.now ≤ moment :=
    fun moment _ => Nat.zero_le moment
  have underWay :
      400 < (run hastySettings hastyRequest hastyServices.calm hastyClock.calm).clock.now := by
    decide +kernel
  have cancelled := (cancellation hastySettings hastyRequest hastyServices hastyClock valid inTime).1
  exact ⟨valid, inTime, cancelled.2 (.timed 400 rfl underWay)⟩

end Inquiry

end PriorArt
