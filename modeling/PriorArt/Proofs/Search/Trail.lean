import PriorArt.Run.Search

/-!
# The trail of a search

A search sends the queries of its plan one after the other. One query takes it from one stand to
the next (`Step`); the queries sent, each with its last result, make up the log of a trail
(`Trail`). Whatever comes of a search, it is the end of a trail whose log holds the first queries of
the plan (`sendAll_trail`): the plan is exhausted, or it is closed to the next query, or the next
query is cancelled or ends the search.
-/

namespace PriorArt

namespace Search

variable {settings : SearchSettings}

/-! ## One query -/

/-- A query with a last result took as many calls as it counts attempts, and no more than were
left. -/
theorem length_calls_attempt {base number left : Nat} {query : TextQuery} {timedOut : Bool}
    {service after : Service} {result : QueryResult}
    (attempted : attempt base query number timedOut left service = (some result, after)) :
    after.calls.length + number = service.calls.length + result.attempts + 1 ∧
      number ≤ result.attempts ∧ result.attempts ≤ number + left := by
  fun_induction attempt base query number timedOut left service with
  | case1 => cases attempted
  | case2 left number timedOut service response heard asked =>
    cases attempted
    have length := Session.length_calls_of_ask asked (by rintro ⟨⟩)
    dsimp only
    omega
  | case3 number timedOut service failure heard asked left delay delayed later slept ih =>
    have length := Session.length_calls_of_ask asked (by rintro ⟨⟩)
    have others := ih attempted
    rw [Session.calls_of_sleep slept] at others
    omega
  | case4 => cases attempted
  | case5 left number timedOut service failure heard asked final =>
    cases attempted
    have length := Session.length_calls_of_ask asked (by rintro ⟨⟩)
    dsimp only
    omega

/-! ## The progress -/

/-- Where a search stands between two queries. -/
structure Stand where
  gate : Gate
  progress : Progress
  service : Service

/-- The queries that were sent, in their order, each with its last result. -/
abbrev Log := List (PlannedQuery × QueryResult)

/-- What becomes of the progress with the last result of a query. -/
def Progress.note (settings : SearchSettings) (progress : Progress) (item : PlannedQuery)
    (result : QueryResult) : Except RunError Progress :=
  match result with
  | ⟨.ok response, attempts⟩ =>
    .ok ((progress.counted attempts).succeed settings.maxPatents item response)
  | ⟨.error failure, attempts⟩ => (progress.counted attempts).fail settings.maxBadRequests failure

theorem Progress.fail_eq_ok {progress progress' : Progress} {maxBadRequests : Nat}
    {failure : Failure} (h : progress.fail maxBadRequests failure = .ok progress') :
    ∃ badRequests, progress' = { progress with failed := progress.failed + 1, badRequests } := by
  unfold Progress.fail at h
  dsimp only at h
  split at h
  · cases h
  · split at h
    · split at h
      · cases h
      · cases h; exact ⟨_, rfl⟩
    · cases h; exact ⟨_, rfl⟩

theorem Progress.note_eq_ok {progress progress' : Progress} {item : PlannedQuery}
    {result : QueryResult} (h : progress.note settings item result = .ok progress') :
    (∃ response attempts, result = ⟨.ok response, attempts⟩ ∧
      progress' = (progress.counted attempts).succeed settings.maxPatents item response) ∨
    (∃ failure attempts badRequests, result = ⟨.error failure, attempts⟩ ∧
      progress' =
        { progress.counted attempts with failed := progress.failed + 1, badRequests }) := by
  obtain ⟨response | failure, attempts⟩ := result
  · obtain ⟨badRequests, counted⟩ := Progress.fail_eq_ok h
    exact .inr ⟨_, _, badRequests, rfl, counted⟩
  · cases h
    exact .inl ⟨_, _, rfl, rfl⟩

/-! ## Steps and trails -/

/-- A query for which there is a permit is sent, and its result does not end the search. -/
structure Step (settings : SearchSettings) (stand : Stand) (entry : PlannedQuery × QueryResult)
    (next : Stand) : Prop where
  isOpen : stand.progress.isClosedTo entry.1 = false
  sent : ∃ clock, stand.gate.acquire stand.service.clock = (true, next.gate, clock) ∧
    send settings entry.1.query { stand.service with clock } = (some entry.2, next.service)
  noted : stand.progress.note settings entry.1 entry.2 = .ok next.progress

/-- A log leads from one stand to another. -/
inductive Trail (settings : SearchSettings) : Stand → Log → Stand → Prop
  | nil (stand : Stand) : Trail settings stand [] stand
  | cons {stand next last : Stand} {entry : PlannedQuery × QueryResult} {log : Log} :
      Step settings stand entry next → Trail settings next log last →
      Trail settings stand (entry :: log) last

/-- What a search comes to at a stand, with these queries of the plan left. -/
inductive Ends (settings : SearchSettings) (stand : Stand) :
    List PlannedQuery → Except RunError Progress × Service → Prop
  | exhausted : Ends settings stand [] (.ok stand.progress, stand.service)
  | closed {item : PlannedQuery} {rest : List PlannedQuery} :
      stand.progress.isClosedTo item = true →
      Ends settings stand (item :: rest) (.ok stand.progress, stand.service)
  | withoutPermit {gate : Gate} {clock : Clock} {item : PlannedQuery} {rest : List PlannedQuery} :
      stand.progress.isClosedTo item = false →
      stand.gate.acquire stand.service.clock = (false, gate, clock) →
      Ends settings stand (item :: rest) (.error .cancelled, { stand.service with clock })
  | withoutResult {gate : Gate} {clock : Clock} {service : Service} {item : PlannedQuery}
      {rest : List PlannedQuery} :
      stand.progress.isClosedTo item = false →
      stand.gate.acquire stand.service.clock = (true, gate, clock) →
      send settings item.query { stand.service with clock } = (none, service) →
      Ends settings stand (item :: rest) (.error .cancelled, service)
  | givenUp {gate : Gate} {clock : Clock} {service : Service} {item : PlannedQuery}
      {rest : List PlannedQuery} {result : QueryResult} {error : RunError} :
      stand.progress.isClosedTo item = false →
      stand.gate.acquire stand.service.clock = (true, gate, clock) →
      send settings item.query { stand.service with clock } = (some result, service) →
      stand.progress.note settings item result = .error error →
      Ends settings stand (item :: rest) (.error error, service)

theorem sendAll_trail (settings : SearchSettings) (plan : List PlannedQuery) (gate : Gate)
    (progress : Progress) (service : Service) :
    ∃ log rest stand, plan = log.map (·.1) ++ rest ∧
      Trail settings ⟨gate, progress, service⟩ log stand ∧
      Ends settings stand rest (sendAll settings gate progress plan service) := by
  fun_induction sendAll settings gate progress plan service with
  | case1 gate progress service => exact ⟨[], [], _, rfl, .nil _, .exhausted⟩
  | case2 gate progress item rest service isClosed =>
    exact ⟨[], item :: rest, _, rfl, .nil _, .closed isClosed⟩
  | case3 gate progress item rest service isOpen _ clock noPermit =>
    exact ⟨[], item :: rest, _, rfl, .nil _, .withoutPermit (by simpa using isOpen) noPermit⟩
  | case4 gate progress item rest service isOpen gate' clock permit service' cancelled =>
    exact ⟨[], item :: rest, _, rfl, .nil _,
      .withoutResult (by simpa using isOpen) permit cancelled⟩
  | case5 gate progress item rest service isOpen gate' clock permit response attempts service' sent
      progress' ih =>
    obtain ⟨log, left, stand, split, trail, ends⟩ := ih
    have step : Step settings ⟨gate, progress, service⟩ (item, ⟨.ok response, attempts⟩)
        ⟨gate', progress', service'⟩ :=
      ⟨by simpa using isOpen, ⟨clock, permit, sent⟩, rfl⟩
    exact ⟨_ :: log, left, stand, by simp [split], .cons step trail, ends⟩
  | case6 gate progress item rest service isOpen gate' clock permit failure attempts service' sent
      error refused =>
    exact ⟨[], item :: rest, _, rfl, .nil _,
      .givenUp (by simpa using isOpen) permit sent refused⟩
  | case7 gate progress item rest service isOpen gate' clock permit failure attempts service' sent
      progress' counted ih =>
    obtain ⟨log, left, stand, split, trail, ends⟩ := ih
    have step : Step settings ⟨gate, progress, service⟩ (item, ⟨.error failure, attempts⟩)
        ⟨gate', progress', service'⟩ :=
      ⟨by simpa using isOpen, ⟨clock, permit, sent⟩, counted⟩
    exact ⟨_ :: log, left, stand, by simp [split], .cons step trail, ends⟩

/-! ## What was sent -/

/-- The queries of a log, sent one after the other when the gate allows, had these last results. -/
inductive Sent (settings : SearchSettings) : Gate → Service → Log → Service → Prop
  | nil (gate : Gate) (service : Service) : Sent settings gate service [] service
  | cons {gate gate' : Gate} {service service' last : Service} {clock : Clock}
      {item : PlannedQuery} {result : QueryResult} {log : Log} :
      gate.acquire service.clock = (true, gate', clock) →
      send settings item.query { service with clock } = (some result, service') →
      Sent settings gate' service' log last →
      Sent settings gate service ((item, result) :: log) last

theorem Trail.sent {stand last : Stand} {log : Log} (h : Trail settings stand log last) :
    Sent settings stand.gate stand.service log last.service := by
  induction h with
  | nil stand => exact .nil ..
  | cons step _ ih =>
    obtain ⟨clock, permit, sent⟩ := step.sent
    exact .cons permit sent ih

/-- The trail of a search with an outcome ends where the plan is exhausted or closed to the next
query, and the outcome is concluded from the progress made. -/
theorem run_eq_ok {strategies : List SearchStrategy} {service : Service} {outcome : SearchOutcome}
    (h : (run settings strategies service).1 = .ok outcome) :
    ∃ log rest stand, Plan.ofStrategies strategies = log.map (·.1) ++ rest ∧
      Trail settings ⟨Gate.opening settings.requestsPerMinute service.clock.now, .empty, service⟩
        log stand ∧
      (∀ item ∈ rest.head?, stand.progress.isClosedTo item = true) ∧
      conclude (Plan.ofStrategies strategies) stand.progress = .ok outcome ∧
      stand.service = (run settings strategies service).2 := by
  unfold run at h ⊢
  generalize Plan.ofStrategies strategies = plan at h ⊢
  split at h
  case h_1 => cases h
  case h_2 nonempty =>
    obtain ⟨log, rest, stand, split, trail, ends⟩ := sendAll_trail settings plan
      (Gate.opening settings.requestsPerMinute service.clock.now) .empty service
    dsimp only at h ends ⊢
    generalize sendAll settings _ .empty plan service = sent at h ends ⊢
    obtain ⟨error | progress, after⟩ := sent
    · cases h
    · refine ⟨log, rest, stand, split, trail, ?_⟩
      cases ends with
      | exhausted => exact ⟨by simp, h, rfl⟩
      | closed isClosed => exact ⟨by simpa using isClosed, h, rfl⟩

end Search

end PriorArt
