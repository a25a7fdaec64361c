import PriorArt.Proofs.Cancellation.Stages
import PriorArt.Proofs.Search.Trail

/-!
# The search of a run that is cancelled

The search follows the calm session, too: a query does, whether it is sent, waits to be sent again
or has been answered, and so does the wait for the permit of the rate gate.
-/

namespace PriorArt

open Session

namespace Search

/-! ## One query -/

section Query

variable (base : Nat) (query : TextQuery)

theorem extends_ask_attempt (number : Nat) (timedOut : Bool) (left : Nat) (service : Service) :
    Extends (service.ask query).2 (attempt base query number timedOut left service).2 := by
  fun_induction attempt base query number timedOut left service with
  | case1 _ _ _ _ _ asked => rw [asked]; exact .refl _
  | case2 _ _ _ _ _ _ asked => rw [asked]; exact .refl _
  | case3 _ _ _ _ _ asked _ _ _ _ slept ih =>
    rw [asked]
    exact ((Extends.ofSleep slept).trans (Session.extends_ask _ _)).trans ih
  | case4 _ _ _ _ _ asked _ _ _ _ slept => rw [asked]; exact .ofSleep slept
  | case5 _ _ _ _ _ _ asked => rw [asked]; exact .refl _

theorem extends_attempt (number : Nat) (timedOut : Bool) (left : Nat) (service : Service) :
    Extends service (attempt base query number timedOut left service).2 :=
  (service.extends_ask query).trans (extends_ask_attempt base query number timedOut left service)

theorem follows_attempt (number : Nat) (timedOut : Bool) (left : Nat) {service : Service}
    (live : service.Live) :
    Follows (· = none) service (attempt base query number timedOut left service)
      (attempt base query number timedOut left service.calm) := by
  generalize calmly : attempt base query number timedOut left service.calm = calm
  fun_induction attempt base query number timedOut left service generalizing calm with
  | case1 left number timedOut service _ asked =>
    have further := extends_ask_attempt base query number timedOut left service.calm
    rw [calmly] at further
    exact .halted rfl ((live.stoppedAsking asked).extend further)
  | case2 left number timedOut service response heard asked =>
    obtain ⟨calmAsked, answered⟩ := live.heard asked (Reply.answered_ne_cancelled response)
    rw [attempt, calmAsked] at calmly
    subst calmly
    exact .done (Option.some_ne_none _) answered
  | case3 number timedOut service failure heard asked left delay again _ slept ih =>
    obtain ⟨calmAsked, answered⟩ := live.heard asked (Reply.failed_ne_cancelled failure)
    obtain ⟨calmSlept, waited⟩ := answered.live.slept slept
    rw [attempt, calmAsked] at calmly
    simp only [again, calmSlept] at calmly
    exact .after (answered.trans waited) (ih waited.live calm calmly)
  | case4 number timedOut service failure heard asked left delay again _ slept =>
    obtain ⟨calmAsked, answered⟩ := live.heard asked (Reply.failed_ne_cancelled failure)
    rw [attempt, calmAsked] at calmly
    simp only [again] at calmly
    rw [answered.live.sleep_calm] at calmly
    -- the calm session goes on with the next attempt
    subst calmly
    have stopped := answered.live.stoppedSleeping slept
    exact .halted rfl (answered.stopped (stopped.extend (extends_attempt ..)))
  | case5 left number timedOut service failure heard asked final =>
    obtain ⟨calmAsked, answered⟩ := live.heard asked (Reply.failed_ne_cancelled failure)
    rw [attempt, calmAsked] at calmly
    dsimp only at calmly
    split at calmly
    · exact absurd ‹_› (final _ _ rfl)
    · subst calmly
      exact .done (Option.some_ne_none _) answered

end Query

/-! ## The plan -/

variable (settings : SearchSettings)

/-- What becomes of the search with the last result of a query. -/
def afterSent (progress : Progress) (item : PlannedQuery)
    (rest : Progress → Service → Except RunError Progress × Service)
    (result : Option QueryResult) (service : Service) : Except RunError Progress × Service :=
  match result with
  | none => (.error .cancelled, service)
  | some result =>
    match progress.note settings item result with
    | .error error => (.error error, service)
    | .ok progress => rest progress service

/-- What becomes of the search once it was waited for a permit. -/
def afterPermit (gate : Gate) (progress : Progress) (item : PlannedQuery)
    (rest : Gate → Progress → Service → Except RunError Progress × Service)
    (reached : Bool) (service : Service) : Except RunError Progress × Service :=
  if reached then
    let sent := send settings item.query service
    afterSent settings progress item (rest (gate.taken service.clock.now)) sent.1 sent.2
  else (.error .cancelled, service)

theorem sendAll_cons {progress : Progress} {item : PlannedQuery}
    (isOpen : progress.isClosedTo item = false) (gate : Gate) (rest : List PlannedQuery)
    (service : Service) :
    let permit := service.waitUntil (max service.clock.now gate.dueMilli)
    sendAll settings gate progress (item :: rest) service =
      afterPermit settings gate progress item (sendAll settings · · rest) permit.1 permit.2 := by
  rw [sendAll, isOpen, if_neg Bool.false_ne_true]
  unfold Gate.acquire waitUntil
  dsimp only
  generalize service.clock.waitUntil (max service.clock.now gate.dueMilli) = permit
  obtain ⟨_ | _, clock⟩ := permit
  · rfl
  · dsimp only [afterPermit]
    generalize send settings item.query { service with clock } = sent
    obtain ⟨_ | ⟨response | failure, attempts⟩, service⟩ := sent
    · rfl
    · rfl
    · rfl

/-- No result of a query is that the run was cancelled. -/
theorem not_gaveUp_note (progress : Progress) (item : PlannedQuery) (result : QueryResult) :
    ¬ GaveUp (progress.note settings item result) := by
  obtain ⟨failure | response, attempts⟩ := result
  · show ¬ GaveUp ((progress.counted attempts).fail settings.maxBadRequests failure)
    unfold Progress.fail
    dsimp only
    split
    · exact Bool.false_ne_true
    · split
      · split
        · exact Bool.false_ne_true
        · exact gaveUp_ok _
      · exact gaveUp_ok _
  · exact gaveUp_ok _

section Rest

variable {settings} {progress : Progress} {item : PlannedQuery}

theorem extends_afterSent {rest : Progress → Service → Except RunError Progress × Service}
    (further : ∀ progress service, Extends service (rest progress service).2)
    (result : Option QueryResult) (service : Service) :
    Extends service (afterSent settings progress item rest result service).2 := by
  unfold afterSent
  split
  · exact .refl service
  · split
    · exact .refl service
    · exact further _ service

theorem extends_afterPermit
    {rest : Gate → Progress → Service → Except RunError Progress × Service}
    (further : ∀ gate progress service, Extends service (rest gate progress service).2)
    (gate : Gate) (reached : Bool) (service : Service) :
    Extends service (afterPermit settings gate progress item rest reached service).2 := by
  unfold afterPermit
  split
  · exact (extends_attempt ..).trans (extends_afterSent (further _) _ _)
  · exact .refl service

theorem follows_afterSent {rest : Progress → Service → Except RunError Progress × Service}
    (others : ∀ progress {service : Service}, service.Live →
      Follows (fun result => GaveUp result) service (rest progress service)
        (rest progress service.calm))
    {result : Option QueryResult} (going : result ≠ none) {service : Service}
    (live : service.Live) :
    Follows (fun result => GaveUp result) service
      (afterSent settings progress item rest result service)
      (afterSent settings progress item rest result service.calm) := by
  cases result with
  | none => exact absurd rfl going
  | some result =>
    have noted := not_gaveUp_note settings progress item result
    unfold afterSent
    dsimp only
    generalize progress.note settings item result = next at noted ⊢
    cases next with
    | error error => exact .done noted (.refl live)
    | ok progress => exact others progress live

theorem follows_afterPermit
    {rest : Gate → Progress → Service → Except RunError Progress × Service}
    (further : ∀ gate progress service, Extends service (rest gate progress service).2)
    (others : ∀ gate progress {service : Service}, service.Live →
      Follows (fun result => GaveUp result) service (rest gate progress service)
        (rest gate progress service.calm))
    (gate : Gate) {service : Service} (live : service.Live) :
    Follows (fun result => GaveUp result) service
      (afterPermit settings gate progress item rest true service)
      (afterPermit settings gate progress item rest true service.calm) := by
  refine (follows_attempt settings.backoffBase item.query 1 false (settings.maxAttempts - 1)
    live).bind (afterSent settings progress item _) (afterSent settings progress item _) ?_
      (extends_afterSent (further _)) ?_
  · rintro result sent rfl
    exact ⟨rfl, rfl⟩
  · intro result sent going sentLive
    exact follows_afterSent (others _) going sentLive

end Rest

theorem extends_sendAll (gate : Gate) (progress : Progress) (plan : List PlannedQuery)
    (service : Service) : Extends service (sendAll settings gate progress plan service).2 := by
  induction plan generalizing gate progress service with
  | nil => exact .refl service
  | cons item rest ih =>
    cases isOpen : progress.isClosedTo item with
    | true =>
      rw [sendAll, isOpen]
      exact .refl service
    | false =>
      rw [sendAll_cons settings isOpen]
      exact (service.extends_waitUntil _).trans (extends_afterPermit ih gate _ _)

theorem follows_sendAll (gate : Gate) (progress : Progress) (plan : List PlannedQuery)
    {service : Service} (live : service.Live) :
    Follows (fun result => GaveUp result) service (sendAll settings gate progress plan service)
      (sendAll settings gate progress plan service.calm) := by
  induction plan generalizing gate progress service with
  | nil => exact .done (gaveUp_ok progress) (.refl live)
  | cons item rest ih =>
    cases isOpen : progress.isClosedTo item with
    | true =>
      rw [sendAll, sendAll, isOpen]
      exact .done (gaveUp_ok progress) (.refl live)
    | false =>
      have further := fun gate progress service =>
        extends_sendAll settings gate progress rest service
      rw [sendAll_cons settings isOpen, sendAll_cons settings isOpen]
      refine (follows_waitUntil live _).bind (afterPermit settings gate progress item _)
        (afterPermit settings gate progress item _) ?_ (extends_afterPermit further gate) ?_
      · rintro reached waited rfl
        exact ⟨rfl, rfl⟩
      · intro reached waited inTime waitedLive
        obtain rfl : reached = true := by simpa using inTime
        exact follows_afterPermit further (fun gate progress _ => ih gate progress) gate waitedLive

theorem not_gaveUp_conclude (plan : List PlannedQuery) (progress : Progress) :
    ¬ GaveUp (conclude plan progress) := by
  unfold conclude
  split
  · exact Bool.false_ne_true
  · exact gaveUp_ok _

theorem run_of_ne_nil {strategies : List SearchStrategy}
    (planned : Plan.ofStrategies strategies ≠ []) (service : Service) :
    let sent := sendAll settings (Gate.opening settings.requestsPerMinute service.clock.now) .empty
      (Plan.ofStrategies strategies) service
    run settings strategies service =
      (sent.1.bind (conclude (Plan.ofStrategies strategies)), sent.2) := by
  unfold run
  split
  case h_1 unplanned => exact absurd unplanned planned
  case h_2 =>
    dsimp only
    generalize sendAll settings _ .empty _ service = sent
    obtain ⟨error | progress, after⟩ := sent
    · rfl
    · rfl

theorem run_of_eq_nil {strategies : List SearchStrategy}
    (unplanned : Plan.ofStrategies strategies = []) (service : Service) :
    run settings strategies service = (.error .noQueries, service) := by
  unfold run
  rw [unplanned]

theorem extends_run (strategies : List SearchStrategy) (service : Service) :
    Extends service (run settings strategies service).2 := by
  by_cases planned : Plan.ofStrategies strategies = []
  · rw [run_of_eq_nil settings planned]
    exact .refl service
  · rw [run_of_ne_nil settings planned]
    exact extends_sendAll ..

theorem follows_run (strategies : List SearchStrategy) {service : Service} (live : service.Live) :
    Follows (fun result => GaveUp result) service (run settings strategies service)
      (run settings strategies service.calm) := by
  by_cases planned : Plan.ofStrategies strategies = []
  · rw [run_of_eq_nil settings planned, run_of_eq_nil settings planned]
    exact .done Bool.false_ne_true (.refl live)
  · rw [run_of_ne_nil settings planned, run_of_ne_nil settings planned]
    refine (follows_sendAll settings _ .empty _ live).map (fun result => GaveUp result)
      (·.bind (conclude (Plan.ofStrategies strategies))) ?_
    rintro (error | progress)
    · exact Iff.rfl
    · exact iff_of_false (not_gaveUp_conclude _ progress) (gaveUp_ok progress)

end Search

end PriorArt
