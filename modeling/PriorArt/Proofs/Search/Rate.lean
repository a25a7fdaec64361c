import PriorArt.Proofs.Gate.Permits
import PriorArt.Proofs.Search.Verdict

/-!
# The rate of a search that nobody cancels

The gate spaces the queries of a search. A query that is sent again does not ask the gate: it waits
for the delay that its failure calls for, so its calls may follow one another faster.

1. `Repeated`: when the calls of one query are made (`taken_of_attempt`).
2. `Spaced`, `Due`: the permits of the gate, taken one after the other.
3. `Turn`, `Paced`: the calls of a search, query by query (`course_of_sent`, `paced_run`).
-/

namespace PriorArt

open Session

namespace Search

/-! ## The calls of one query -/

/-- The call of an attempt failed, and the next one is made when the failure is known and the delay
has passed that it calls for. -/
def IsRepeat (base number : Nat) (answer : Answer SearchResponse)
    (earlier later : Call TextQuery) : Prop :=
  ∃ failure timedOut delay, answer.result = .error failure ∧
    retryDelay? base number timedOut failure = some delay ∧
    later.time =
      earlier.time + min answer.delay Clock.longestWait + min delay Clock.longestWait

/-- The calls of one query from an attempt on, of which the first gets the answer with the index
`start`. -/
inductive Repeated (base : Nat) (answer : Nat → Answer SearchResponse) :
    (start number : Nat) → List (Call TextQuery) → Prop
  | last {start number : Nat} {call : Call TextQuery} : Repeated base answer start number [call]
  | again {start number : Nat} {earlier later : Call TextQuery} {rest : List (Call TextQuery)} :
      IsRepeat base number (answer start) earlier later →
      Repeated base answer (start + 1) (number + 1) (later :: rest) →
      Repeated base answer start number (earlier :: later :: rest)

theorem IsRepeat.le {base number : Nat} {answer : Answer SearchResponse}
    {earlier later : Call TextQuery} (again : IsRepeat base number answer earlier later) :
    earlier.time ≤ later.time := by
  obtain ⟨_, _, _, -, -, time⟩ := again
  omega

theorem Repeated.ordered {base start number : Nat} {answer : Nat → Answer SearchResponse}
    {calls : List (Call TextQuery)} (repeated : Repeated base answer start number calls) :
    calls.Pairwise (·.time ≤ ·.time) := by
  induction repeated with
  | last => exact List.pairwise_singleton ..
  | @again start number earlier later rest again _ ih =>
    refine List.pairwise_cons.2 ⟨?_, ih⟩
    intro call member
    rcases List.mem_cons.1 member with rfl | member
    · exact again.le
    · exact Nat.le_trans again.le ((List.pairwise_cons.1 ih).1 call member)

/-- The calls that a query took, from an attempt on. -/
structure Taken (base number : Nat) (query : TextQuery) (service after : Service)
    (calls : List (Call TextQuery)) : Prop where
  made : after.calls = service.calls ++ calls
  asked : ∀ call ∈ calls, call.question = query
  past : ∀ call ∈ calls, call.time ≤ after.clock.now
  repeated : Repeated base service.answer service.calls.length number calls

theorem taken_of_ask (base number : Nat) {query : TextQuery} {service after : Service}
    {reply : Reply SearchResponse} (calm : service.IsCalm)
    (asked : service.ask query = (reply, after)) :
    Taken base number query service after [⟨service.clock.now, query⟩] := by
  have made := calls_ask calm.clock.uncancelled query
  have further := (service.extends_ask query).now
  rw [asked] at made further
  exact
    { made
      asked := by simp
      past := by simpa using further
      repeated := .last }

/-- An attempt that is followed by others took one call more than they did. -/
theorem Taken.again {base number delay : Nat} {query : TextQuery} {timedOut reached : Bool}
    {failure : Failure} {service heard later after : Service} {repeats : List (Call TextQuery)}
    (taken : Taken base (number + 1) query later after (⟨later.clock.now, query⟩ :: repeats))
    (calm : service.IsCalm) (asked : service.ask query = (.failed failure, heard))
    (delayed : retryDelay? base number timedOut failure = some delay)
    (slept : heard.sleep delay = (reached, later)) :
    Taken base number query service after
      (⟨service.clock.now, query⟩ :: ⟨later.clock.now, query⟩ :: repeats) := by
  have first := taken_of_ask base number calm asked
  have heardAt := calm.now_of_ask asked
  have laterAt := (calm.of_ask asked).now_of_sleep slept
  have calls : later.calls = service.calls ++ [⟨service.clock.now, query⟩] :=
    (calls_of_sleep slept).trans first.made
  have answers : later.answer = service.answer :=
    (Extends.ofSleep slept).answer.trans (asked ▸ service.extends_ask query).answer
  have repeated := taken.repeated
  rw [answers, calls, List.length_append, List.length_singleton] at repeated
  have past := taken.past
  exact
    { made := by rw [taken.made, calls, List.append_assoc]; rfl
      asked := List.forall_mem_cons.2 ⟨rfl, taken.asked⟩
      past := by
        refine List.forall_mem_cons.2 ⟨?_, taken.past⟩
        have last := taken.past _ List.mem_cons_self
        simp only [Clock.afterWait] at heardAt laterAt last ⊢
        omega
      repeated := by
        refine .again ⟨failure, timedOut, delay, result_of_failed asked, delayed, ?_⟩ repeated
        show later.clock.now = _
        rw [laterAt, Clock.afterWait, heardAt, Clock.afterWait] }

theorem taken_of_attempt {base number left : Nat} {query : TextQuery} {timedOut : Bool}
    {service after : Service} {result : QueryResult} (calm : service.IsCalm)
    (sent : attempt base query number timedOut left service = (some result, after)) :
    ∃ repeats, Taken base number query service after (⟨service.clock.now, query⟩ :: repeats) := by
  fun_induction attempt base query number timedOut left service with
  | case1 => cases sent
  | case2 left number timedOut service response heard asked =>
    cases sent
    exact ⟨[], taken_of_ask base number calm asked⟩
  | case3 number timedOut service failure heard asked left delay delayed later slept ih =>
    obtain ⟨repeats, taken⟩ := ih ((calm.of_ask asked).of_sleep slept) sent
    exact ⟨_, taken.again calm asked delayed slept⟩
  | case4 => cases sent
  | case5 left number timedOut service failure heard asked final =>
    cases sent
    exact ⟨[], taken_of_ask base number calm asked⟩

/-! ## The permits of the gate -/

/-- The time of a call on the clock of the gate. -/
def nanos (call : Call TextQuery) : Nat :=
  call.time * Gate.nanosPerMilli

/-- Calls that are `n` places apart are made `n` periods apart or more, but for the slack. -/
def Spaced (perMinute : Nat) (calls : List (Call TextQuery)) : Prop :=
  ∀ i n, 1 ≤ n → ∀ earlier ∈ calls[i]?, ∀ later ∈ calls[i + n]?,
    nanos earlier + n * (Gate.nanosPerMinute / perMinute) ≤ nanos later + Gate.slack

/-- No call is made before its permit is due. -/
def Due (gate : Gate) (calls : List (Call TextQuery)) : Prop :=
  ∀ k, ∀ call ∈ calls[k]?, gate.due + k * gate.period ≤ nanos call

section Permits

variable {gate : Gate} {perMinute : Nat}

theorem due_iff {calls : List (Call TextQuery)} :
    Due gate calls ↔ Gate.Due gate (calls.map (·.time)) := by
  simp [Due, Gate.Due, nanos]

theorem spaced_iff {calls : List (Call TextQuery)} :
    Spaced perMinute calls ↔
      Gate.Spaced (Gate.nanosPerMinute / perMinute) (calls.map (·.time)) := by
  simp [Spaced, Gate.Spaced, nanos, Gate.nanosPerMilli, Gate.slack]

variable {rest : List (Call TextQuery)} (call : Call TextQuery)

theorem Due.cons (due : Due (gate.taken call.time) rest) (first : gate.due ≤ nanos call) :
    Due gate (call :: rest) := by
  rw [due_iff] at due ⊢
  exact Gate.Due.cons due first

theorem Spaced.cons (spaced : Spaced perMinute rest)
    (due : Due (gate.taken call.time) rest)
    (period : gate.period = Gate.nanosPerMinute / perMinute) :
    Spaced perMinute (call :: rest) := by
  rw [spaced_iff, ← period] at spaced ⊢
  exact Gate.Spaced.cons spaced (due_iff.1 due)

end Permits

/-! ## The calls of a search -/

/-- The calls of one query of a search. -/
structure Turn where
  item : PlannedQuery
  first : Call TextQuery
  repeats : List (Call TextQuery)

def Turn.calls (turn : Turn) : List (Call TextQuery) :=
  turn.first :: turn.repeats

/-- When the calls are made that a search makes of a service. -/
structure Paced (settings : SearchSettings) (service : Service) (turns : List Turn) : Prop where
  asked : ∀ turn ∈ turns, ∀ call ∈ turn.calls, call.question = turn.item.query
  ordered : (turns.flatMap Turn.calls).Pairwise (·.time ≤ ·.time)
  spaced : Spaced settings.requestsPerMinute (turns.map (·.first))
  /-- The first call of a query takes the next answer of the service. -/
  repeated : ∀ before turn after, turns = before ++ turn :: after →
    Repeated settings.backoffBase service.answer
      (service.calls.length + (before.flatMap Turn.calls).length) 1 turn.calls

/-- The calls of queries that are sent when a gate allows. -/
structure Course (settings : SearchSettings) (gate : Gate) (service after : Service)
    (turns : List Turn) : Prop extends Paced settings service turns where
  made : after.calls = service.calls ++ turns.flatMap Turn.calls
  due : Due gate (turns.map (·.first))
  since : ∀ call ∈ turns.flatMap Turn.calls, service.clock.now ≤ call.time

theorem Course.nil (settings : SearchSettings) (gate : Gate) (service : Service) :
    Course settings gate service service [] where
  asked := by simp
  ordered := .nil
  spaced := by
    intro i n _ earlier isEarlier
    simp at isEarlier
  repeated := by
    intro before turn after split
    simp at split
  made := by simp
  due := by
    intro k call isCall
    simp at isCall
  since := by simp

theorem Course.cons {settings : SearchSettings} {gate : Gate} {service sent after : Service}
    {now : Nat} {item : PlannedQuery} {repeats : List (Call TextQuery)} {turns : List Turn}
    (course : Course settings (gate.taken now) sent after turns)
    (taken : Taken settings.backoffBase 1 item.query (service.atTime now) sent
      (⟨now, item.query⟩ :: repeats))
    (period : gate.period = Gate.nanosPerMinute / settings.requestsPerMinute)
    (due : gate.due ≤ nanos ⟨now, item.query⟩) (waited : service.clock.now ≤ now)
    (answers : sent.answer = service.answer) :
    Course settings gate service after (⟨item, ⟨now, item.query⟩, repeats⟩ :: turns) where
  asked := List.forall_mem_cons.2 ⟨taken.asked, course.asked⟩
  ordered := by
    rw [List.flatMap_cons]
    refine List.pairwise_append.2 ⟨taken.repeated.ordered, course.ordered, ?_⟩
    intro earlier isEarlier later isLater
    exact Nat.le_trans (taken.past earlier isEarlier) (course.since later isLater)
  spaced := by
    rw [List.map_cons]
    exact course.spaced.cons ⟨now, item.query⟩ course.due period
  repeated := by
    intro before turn others split
    cases before with
    | nil =>
      obtain ⟨rfl, -⟩ := List.cons.inj split
      exact taken.repeated
    | cons first before =>
      obtain ⟨rfl, tail⟩ := List.cons.inj split
      have repeated := course.repeated before turn others tail
      rw [answers, taken.made, List.length_append] at repeated
      rw [List.flatMap_cons, List.length_append, ← Nat.add_assoc]
      exact repeated
  made := by
    rw [course.made, taken.made, List.append_assoc]
    rfl
  due := by
    rw [List.map_cons]
    exact course.due.cons ⟨now, item.query⟩ due
  since := by
    have ordered := (List.pairwise_cons.1 taken.repeated.ordered).1
    have last : now ≤ sent.clock.now := taken.past _ List.mem_cons_self
    rw [List.flatMap_cons]
    intro call member
    rcases List.mem_append.1 member with member | member
    · rcases List.mem_cons.1 member with rfl | member
      · exact waited
      · exact Nat.le_trans waited (ordered call member)
    · exact Nat.le_trans (Nat.le_trans waited last) (course.since call member)

theorem course_of_sent {settings : SearchSettings} {gate : Gate} {service after : Service}
    {log : Log} (sent : Sent settings gate service log after) (calm : service.IsCalm)
    (period : gate.period = Gate.nanosPerMinute / settings.requestsPerMinute) :
    ∃ turns, turns.map (·.item) = log.map (·.1) ∧ Course settings gate service after turns := by
  induction sent with
  | nil gate service => exact ⟨[], rfl, .nil settings gate service⟩
  | @cons gate gate' service heard last clock item result log permit attempted _ ih =>
    rw [calm.acquire_eq gate, Prod.mk.injEq, Prod.mk.injEq] at permit
    obtain ⟨-, rfl, rfl⟩ := permit
    have calmThen := calm.atTime (max service.clock.now gate.dueMilli)
    obtain ⟨repeats, taken⟩ := taken_of_attempt calmThen attempted
    obtain ⟨turns, items, course⟩ := ih (isCalm_of_send calmThen attempted)
      ((gate.period_taken _).trans period)
    have due : gate.due ≤ nanos ⟨max service.clock.now gate.dueMilli, item.query⟩ := by
      unfold nanos
      exact Nat.le_trans gate.due_le_dueMilli (Nat.mul_le_mul_right _ (Nat.le_max_right ..))
    have answers := answer_of_send attempted
    refine ⟨_ :: turns, ?_, course.cons taken period due (Nat.le_max_left ..) answers⟩
    rw [List.map_cons, List.map_cons, items]

/-- **The rate of a search.** A search that nobody cancels calls the service query by query. The
first calls of its queries keep the rate, but for the slack of the gate; a call that is repeated
waits for the delay of its failure instead. -/
theorem paced_run (settings : SearchSettings) (strategies : List SearchStrategy)
    {service : Service} (calm : service.IsCalm) (rate : 1 ≤ settings.requestsPerMinute) :
    ∃ turns : List Turn,
      (run settings strategies service).2.calls = service.calls ++ turns.flatMap Turn.calls ∧
      turns.map (·.item) <+: Plan.ofStrategies strategies ∧
      Paced settings service turns := by
  obtain ⟨log, sent, ofPlan, -⟩ := ending_run settings strategies calm
  have period : (Gate.opening settings.requestsPerMinute service.clock.now).period =
      Gate.nanosPerMinute / settings.requestsPerMinute := by
    show Gate.nanosPerMinute / max settings.requestsPerMinute 1 = _
    rw [Nat.max_eq_left rate]
  obtain ⟨turns, items, course⟩ := course_of_sent sent calm period
  exact ⟨turns, course.made, items ▸ ofPlan, course.toPaced⟩

/-! ### A search whose first call fails -/

def steadySettings : SearchSettings :=
  { sampleSettings with
    maxPatents := 5
    requestsPerMinute := 45
    maxAttempts := 3
    backoffBase := 1000 }

/-- The first call is answered with a server error, the others are answered without patents. -/
def falteringService : Service :=
  { clock := .start
    calls := []
    answer
      | 0 => ⟨0, false, .error (.status 500 none "")⟩
      | _ => ⟨0, false, .ok ⟨false, 0, 0, []⟩⟩ }

theorem isCalm_falteringService : falteringService.IsCalm := by
  refine ⟨⟨rfl, rfl⟩, fun n => ?_⟩
  rcases n with _ | n <;> rfl

theorem times_faltering :
    (run steadySettings sampleStrategies falteringService).2.calls.map (·.time) =
      [0, 1000, 1334, 2667] := by
  rw [run, Plan.ofStrategies, inOrder_sampleStrategies]
  decide +kernel

theorem paced_run_faltering :
    falteringService.IsCalm ∧ 1 ≤ steadySettings.requestsPerMinute ∧ ∃ turns : List Turn,
      (turns.flatMap Turn.calls).map (·.time) = [0, 1000, 1334, 2667] ∧
      turns.map (·.item) <+: Plan.ofStrategies sampleStrategies ∧
      Paced steadySettings falteringService turns := by
  have rate : 1 ≤ steadySettings.requestsPerMinute := by decide
  obtain ⟨turns, made, ofPlan, paced⟩ :=
    paced_run steadySettings sampleStrategies isCalm_falteringService rate
  have times := times_faltering
  rw [made, show falteringService.calls = [] from rfl, List.nil_append] at times
  exact ⟨isCalm_falteringService, rate, turns, times, ofPlan, paced⟩

/-- The calls of this search do not keep the rate of its queries: the second follows the first after
a second, and not after the period of the gate. -/
theorem not_spaced_faltering :
    falteringService.IsCalm ∧ 1 ≤ steadySettings.requestsPerMinute ∧
      ¬ Spaced steadySettings.requestsPerMinute
        (run steadySettings sampleStrategies falteringService).2.calls := by
  refine ⟨isCalm_falteringService, by decide, ?_⟩
  intro spaced
  have times := times_faltering
  obtain ⟨first, others, made, atOnce, rest⟩ := List.map_eq_cons_iff.1 times
  obtain ⟨second, _, rfl, repeated, -⟩ := List.map_eq_cons_iff.1 rest
  rw [made] at spaced
  have apart := spaced 0 1 (Nat.le_refl 1) first rfl second rfl
  unfold nanos at apart
  rw [atOnce, repeated] at apart
  exact absurd apart (by decide)

end Search

end PriorArt
