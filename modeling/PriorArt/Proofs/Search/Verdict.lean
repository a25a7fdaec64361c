import PriorArt.Proofs.Search.Finality
import PriorArt.Proofs.Search.Outcome

/-!
# How a search ends that nobody cancels

1. `Refused`, `Rejected`, `Unanswered`: what the last results of the queries sent may say about the
   search.
2. `Trail.tallied`: along a trail a search counts what its log holds, and no query of the log ends
   the search.
3. `Heard`: the results of a log, as the service has them call by call (`Sent.heard`).
4. `Ending`: how a search ends, by its log.
5. `Verdict`: what a search comes to exactly when its log says so (`verdict_run`).
-/

namespace PriorArt

open Session

namespace Search

variable {settings : SearchSettings}

/-! ## What a log says about a search -/

def QueryResult.hasFailed (result : QueryResult) : Bool :=
  match result.result with
  | .ok _ => false
  | .error _ => true

def QueryResult.hasStatus (result : QueryResult) (status : Nat) : Bool :=
  match result.result with
  | .ok _ => false
  | .error failure => failure.status? = some status

/-- The service refused the credentials. -/
abbrev QueryResult.isRefused (result : QueryResult) : Bool :=
  result.hasStatus Failure.forbidden

/-- The service rejected the query. -/
abbrev QueryResult.isRejected (result : QueryResult) : Bool :=
  result.hasStatus Failure.badRequest

theorem QueryResult.not_isRejected {result : QueryResult} (refused : result.isRefused = true) :
    result.isRejected = false := by
  obtain ⟨failure | response, attempts⟩ := result
  · have status : failure.status? = some Failure.forbidden := of_decide_eq_true refused
    show decide (failure.status? = some Failure.badRequest) = false
    rw [status]
    decide
  · cases refused

def failures (log : Log) : Nat :=
  log.countP (·.2.hasFailed)

theorem failures_concat (log : Log) (entry : PlannedQuery × QueryResult) :
    failures (log ++ [entry]) = failures log + if entry.2.hasFailed then 1 else 0 := by
  rw [failures, List.countP_append, List.countP_singleton]
  rfl

def rejections (log : Log) : Nat :=
  log.countP (·.2.isRejected)

theorem rejections_concat (log : Log) (entry : PlannedQuery × QueryResult) :
    rejections (log ++ [entry]) = rejections log + if entry.2.isRejected then 1 else 0 := by
  rw [rejections, List.countP_append, List.countP_singleton]
  rfl

theorem rejections_le_append (log others : Log) : rejections log ≤ rejections (log ++ others) := by
  rw [rejections, rejections, List.countP_append]
  exact Nat.le_add_right ..

/-- The number of rejected queries that ends a search. -/
def mostRejections (settings : SearchSettings) : Nat :=
  max settings.maxBadRequests 1

/-- A query was refused before there were enough rejected ones to end the search. -/
def Refused (settings : SearchSettings) (log : Log) : Prop :=
  ∃ before entry after, log = before ++ entry :: after ∧ entry.2.isRefused = true ∧
    rejections before < mostRejections settings

/-- Enough queries were rejected to end the search before any was refused. -/
def Rejected (settings : SearchSettings) (log : Log) : Prop :=
  ∃ before entry after, log = before ++ entry :: after ∧ entry.2.isRejected = true ∧
    rejections before + 1 = mostRejections settings ∧
    ∀ other ∈ before, other.2.isRefused = false

/-- Every query of the plan was sent and failed. -/
def Unanswered (plan : List PlannedQuery) (log : Log) : Prop :=
  log.map (·.1) = plan ∧ ∀ entry ∈ log, entry.2.hasFailed = true

/-- A query ends the search after the ones before it. -/
def Trips (settings : SearchSettings) (before : Log) (entry : PlannedQuery × QueryResult) : Prop :=
  rejections before < mostRejections settings ∧
    (entry.2.isRefused = true ∨
      entry.2.isRejected = true ∧ rejections before + 1 = mostRejections settings)

/-- No query of the log ends the search. -/
structure Clear (settings : SearchSettings) (log : Log) : Prop where
  accepted : ∀ entry ∈ log, entry.2.isRefused = false
  few : rejections log < mostRejections settings

theorem clear_nil : Clear settings [] :=
  ⟨by simp, Nat.le_max_right ..⟩

namespace Clear

variable {log before after : Log} {entry last : PlannedQuery × QueryResult}
  (clear : Clear settings log)

include clear

theorem not_trips (split : log = before ++ entry :: after) : ¬ Trips settings before entry := by
  rintro ⟨-, refused | ⟨rejected, most⟩⟩
  · have accepted := clear.accepted entry (by simp [split])
    exact absurd refused (accepted ▸ Bool.false_ne_true)
  · have few := clear.few
    have upToEntry := rejections_le_append (before ++ [entry]) after
    rw [rejections_concat, if_pos rejected, List.append_assoc, List.singleton_append, ← split,
      most] at upToEntry
    exact absurd few (Nat.not_lt_of_le upToEntry)

theorem not_refused : ¬ Refused settings log := by
  rintro ⟨before, entry, after, split, refused, few⟩
  exact clear.not_trips split ⟨few, .inl refused⟩

theorem not_rejected : ¬ Rejected settings log := by
  rintro ⟨before, entry, after, split, rejected, most, -⟩
  exact clear.not_trips split ⟨most ▸ Nat.lt_succ_self _, .inr ⟨rejected, most⟩⟩

/-- After a clear log, only the next query may end the search. -/
theorem eq_of_trips (split : log ++ [last] = before ++ entry :: after)
    (trips : Trips settings before entry) : before = log ∧ entry = last ∧ after = [] := by
  rcases List.eq_nil_or_concat after with rfl | ⟨others, final, rfl⟩
  · obtain ⟨same, single⟩ := List.append_inj' split rfl
    exact ⟨same.symm, (List.cons.inj single).1.symm, rfl⟩
  · rw [List.concat_eq_append, ← List.cons_append, ← List.append_assoc] at split
    exact absurd trips (clear.not_trips (List.append_inj' split rfl).1)

end Clear

/-! ## What a search counts -/

/-- What was counted are the failures and the rejections of the log. -/
structure Tallies (log : Log) (progress : Progress) : Prop where
  failed : progress.failed = failures log
  badRequests : progress.badRequests = rejections log

/-- The last result of a query that ends the search, and the error with which it does. -/
def EndsWith (settings : SearchSettings) (log : Log) (result : QueryResult) (error : RunError) :
    Prop :=
  result.isRefused = true ∧ error = .authenticationFailed ∨
    result.isRejected = true ∧ rejections log + 1 = mostRejections settings ∧
      error = .queryBuilderDefect (mostRejections settings)

theorem Tallies.note {log : Log} {progress : Progress} (tallies : Tallies log progress)
    (clear : Clear settings log) (item : PlannedQuery) (result : QueryResult) :
    match progress.note settings item result with
    | .ok next => Tallies (log ++ [(item, result)]) next ∧ Clear settings (log ++ [(item, result)])
    | .error error => EndsWith settings log result error := by
  have failed := failures_concat log (item, result)
  have rejected := rejections_concat log (item, result)
  have keeps (accepted : result.isRefused = false)
      (few : rejections (log ++ [(item, result)]) < mostRejections settings) :
      Clear settings (log ++ [(item, result)]) :=
    ⟨List.forall_mem_append.2 ⟨clear.accepted, by simpa using accepted⟩, few⟩
  obtain ⟨failure | response, attempts⟩ := result
  · rw [show QueryResult.hasFailed _ = true from rfl, if_pos rfl, ← tallies.failed] at failed
    dsimp only [Progress.note, Progress.fail, Progress.counted]
    by_cases forbidden : failure.status? = some Failure.forbidden
    · rw [if_pos forbidden]
      exact .inl ⟨decide_eq_true forbidden, rfl⟩
    rw [if_neg forbidden]
    by_cases bad : failure.status? = some Failure.badRequest
    · have isRejected : (⟨.error failure, attempts⟩ : QueryResult).isRejected = true :=
        decide_eq_true bad
      have few := clear.few
      rw [if_pos isRejected] at rejected
      rw [if_pos bad, tallies.badRequests]
      by_cases most : settings.maxBadRequests ≤ rejections log + 1
      · have reached : rejections log + 1 = mostRejections settings := by
          unfold mostRejections at few ⊢
          omega
        rw [if_pos most]
        exact .inr ⟨isRejected, reached, by rw [reached]⟩
      · rw [if_neg most]
        refine ⟨⟨failed.symm, rejected.symm⟩, keeps (decide_eq_false forbidden) ?_⟩
        rw [rejected, mostRejections]
        omega
    · have notRejected : ¬ (⟨.error failure, attempts⟩ : QueryResult).isRejected = true :=
        mt of_decide_eq_true bad
      rw [if_neg notRejected, Nat.add_zero] at rejected
      rw [if_neg bad]
      exact ⟨⟨failed.symm, rejected ▸ tallies.badRequests⟩,
        keeps (decide_eq_false forbidden) (rejected ▸ clear.few)⟩
  · exact ⟨⟨failed ▸ tallies.failed, rejected ▸ tallies.badRequests⟩,
      keeps rfl (rejected ▸ clear.few)⟩

/-- Along a trail, what is counted is what the log holds, and no query of it ends the search. -/
theorem Trail.tallied {stand last : Stand} {log : Log} (trail : Trail settings stand log last) :
    ∀ {earlier : Log}, Tallies earlier stand.progress → Clear settings earlier →
      Tallies (earlier ++ log) last.progress ∧ Clear settings (earlier ++ log) := by
  induction trail with
  | nil stand => intro earlier tallies clear; simpa using ⟨tallies, clear⟩
  | @cons stand next last entry log step _ ih =>
    intro earlier tallies clear
    have noted := tallies.note clear entry.1 entry.2
    rw [step.noted] at noted
    rw [List.append_cons]
    exact ih noted.1 noted.2

/-! ## A search that nobody cancels -/

theorem Trail.isCalm {stand last : Stand} {log : Log} (trail : Trail settings stand log last)
    (calm : stand.service.IsCalm) : last.service.IsCalm := by
  induction trail with
  | nil stand => exact calm
  | cons step _ ih =>
    obtain ⟨clock, permit, sent⟩ := step.sent
    obtain ⟨gate, now, acquired⟩ := calm.acquire _
    rw [acquired, Prod.mk.injEq, Prod.mk.injEq] at permit
    obtain ⟨-, -, rfl⟩ := permit
    exact ih (isCalm_of_send (calm.atTime now) sent)

theorem Trail.sent_append {stand last : Stand} {log others : Log} {after : Service}
    (trail : Trail settings stand log last)
    (later : Sent settings last.gate last.service others after) :
    Sent settings stand.gate stand.service (log ++ others) after := by
  induction trail with
  | nil stand => exact later
  | cons step _ ih =>
    obtain ⟨clock, permit, sent⟩ := step.sent
    exact .cons permit sent (ih later)

/-- The last results of the queries of a log are those that the service has for them, from a call
on: the first final one of each query, or the one with which its attempts are used up. -/
inductive Heard (settings : SearchSettings) (answer : Nat → Answer SearchResponse) :
    Nat → Log → Prop
  | nil (start : Nat) : Heard settings answer start []
  | cons {start last : Nat} {item : PlannedQuery} {log : Log} :
      Stops (IsFinal fun n => (answer (start + n)).result) (max settings.maxAttempts 1) last →
      Heard settings answer (start + (last + 1)) log →
      Heard settings answer start
        ((item, ⟨(answer (start + last)).result, last + 1⟩) :: log)

/-- Where nobody cancels, what was sent has the results that the service had for it. -/
theorem Sent.heard {gate : Gate} {service after : Service} {log : Log}
    (sent : Sent settings gate service log after) (calm : service.IsCalm) :
    Heard settings service.answer service.calls.length log := by
  induction sent with
  | nil gate service => exact .nil _
  | @cons gate gate' service heard last clock item result log permit sent _ ih =>
    rw [calm.acquire_eq gate, Prod.mk.injEq, Prod.mk.injEq] at permit
    obtain ⟨-, -, rfl⟩ := permit
    have calmThen := calm.atTime (max service.clock.now gate.dueMilli)
    obtain ⟨last, stops, rfl⟩ := stops_of_send calmThen sent
    have length := (length_calls_attempt sent).1
    have others := ih (isCalm_of_send calmThen sent)
    rw [answer_of_send sent, show heard.calls.length = service.calls.length + (last + 1) from
      Nat.succ.inj length] at others
    exact .cons stops others

/-! ## The ways in which a search ends -/

/-- How a search ends, by the queries that were sent. -/
inductive Ending (settings : SearchSettings) (plan : List PlannedQuery) :
    Log → Except RunError SearchOutcome → Prop
  | unplanned : plan = [] → Ending settings plan [] (.error .noQueries)
  | tripped {log : Log} {item : PlannedQuery} {result : QueryResult} {error : RunError} :
      plan ≠ [] → Clear settings log → EndsWith settings log result error →
      Ending settings plan (log ++ [(item, result)]) (.error error)
  | unavailable {log : Log} :
      plan ≠ [] → Clear settings log → Unanswered plan log →
      Ending settings plan log (.error (.apiUnavailable plan.length))
  | answered {log : Log} {outcome : SearchOutcome} :
      plan ≠ [] → Clear settings log → ¬ Unanswered plan log →
      Ending settings plan log (.ok outcome)

theorem ending_conclude {plan : List PlannedQuery} {log : Log} {progress : Progress}
    (planned : plan ≠ []) (sent : log.map (·.1) <+: plan) (tallies : Tallies log progress)
    (clear : Clear settings log) : Ending settings plan log (conclude plan progress) := by
  have length : log.length = (log.map (·.1)).length := List.length_map .. |>.symm
  have few : failures log ≤ log.length := List.countP_le_length
  have unanswered : progress.failed = plan.length ↔ Unanswered plan log := by
    rw [tallies.failed]
    constructor
    · intro all
      have whole : log.map (·.1) = plan := by
        refine sent.eq_of_length_le ?_
        omega
      refine ⟨whole, List.countP_eq_length.1 ?_⟩
      show failures log = log.length
      rw [all, length, whole]
    · rintro ⟨whole, all⟩
      rw [failures, List.countP_eq_length.2 all, length, whole]
  unfold conclude
  by_cases all : progress.failed = plan.length
  · rw [if_pos all, all]
    exact .unavailable planned clear (unanswered.1 all)
  · rw [if_neg all]
    exact .answered planned clear (mt unanswered.2 all)

theorem ending_run (settings : SearchSettings) (strategies : List SearchStrategy)
    {service : Service} (calm : service.IsCalm) :
    ∃ log,
      Sent settings (Gate.opening settings.requestsPerMinute service.clock.now) service log
        (run settings strategies service).2 ∧
      log.map (·.1) <+: Plan.ofStrategies strategies ∧
      Ending settings (Plan.ofStrategies strategies) log (run settings strategies service).1 := by
  by_cases planned : Plan.ofStrategies strategies = []
  · rw [run_of_eq_nil settings planned]
    exact ⟨[], .nil .., List.nil_prefix, .unplanned planned⟩
  · rw [run_of_ne_nil settings planned]
    obtain ⟨log, rest, stand, split, trail, ends⟩ := sendAll_trail settings
      (Plan.ofStrategies strategies) (Gate.opening settings.requestsPerMinute service.clock.now)
      .empty service
    have begun : Tallies [] Progress.empty := ⟨rfl, rfl⟩
    obtain ⟨tallies, clear⟩ := trail.tallied begun clear_nil
    have calmStand := trail.isCalm calm
    have sent : log.map (·.1) <+: Plan.ofStrategies strategies := split ▸ List.prefix_append ..
    dsimp only
    generalize sendAll settings _ .empty _ service = came at ends ⊢
    cases ends with
    | exhausted => exact ⟨log, trail.sent, sent, ending_conclude planned sent tallies clear⟩
    | closed => exact ⟨log, trail.sent, sent, ending_conclude planned sent tallies clear⟩
    | withoutPermit _ refused =>
      obtain ⟨gate, now, acquired⟩ := calmStand.acquire stand.gate
      rw [acquired] at refused
      cases refused
    | withoutResult _ permit unsent =>
      obtain ⟨gate, now, acquired⟩ := calmStand.acquire stand.gate
      rw [acquired, Prod.mk.injEq, Prod.mk.injEq] at permit
      obtain ⟨-, -, rfl⟩ := permit
      obtain ⟨result, after, attempted, -⟩ := attempt_of_isCalm settings.backoffBase _ 1 false
        (settings.maxAttempts - 1) (calmStand.atTime now)
      cases attempted.symm.trans unsent
    | @givenUp gate clock after item rest result error _ permit final noted =>
      have ended := tallies.note clear item result
      rw [noted] at ended
      refine ⟨log ++ [(item, result)], trail.sent_append (.cons permit final (.nil ..)), ?_,
        .tripped planned clear ended⟩
      rw [split]
      exact ⟨rest, by simp⟩

/-! ## The verdict of a log -/

/-- What a search comes to, by the last results of the queries that were sent. -/
structure Verdict (settings : SearchSettings) (plan : List PlannedQuery) (log : Log)
    (result : Except RunError SearchOutcome) : Prop where
  unplanned : result = .error .noQueries ↔ plan = []
  refused : result = .error .authenticationFailed ↔ Refused settings log
  rejected : ∀ count, result = .error (.queryBuilderDefect count) ↔
    count = mostRejections settings ∧ Rejected settings log
  unavailable : ∀ count, result = .error (.apiUnavailable count) ↔
    count = plan.length ∧ plan ≠ [] ∧ Unanswered plan log ∧
      ¬ Refused settings log ∧ ¬ Rejected settings log
  answered : (∃ outcome, result = .ok outcome) ↔
    plan ≠ [] ∧ ¬ Refused settings log ∧ ¬ Rejected settings log ∧ ¬ Unanswered plan log
  errors : ∀ error, result = .error error →
    error = .noQueries ∨ error = .authenticationFailed ∨
      error = .queryBuilderDefect (mostRejections settings) ∨ error = .apiUnavailable plan.length
  /-- Nothing is sent after a query that ends the search. -/
  final : ∀ before entry after, log = before ++ entry :: after → Trips settings before entry →
    after = []

section Verdict

variable {plan : List PlannedQuery} {log : Log}

theorem verdict_of_isRefused (planned : plan ≠ []) (clear : Clear settings log)
    {item : PlannedQuery} {result : QueryResult} (isRefused : result.isRefused = true) :
    Verdict settings plan (log ++ [(item, result)]) (.error .authenticationFailed) := by
  have refused : Refused settings (log ++ [(item, result)]) :=
    ⟨log, _, [], rfl, isRefused, clear.few⟩
  have notRejected : ¬ Rejected settings (log ++ [(item, result)]) := by
    rintro ⟨before, entry, after, split, isRejected, most, -⟩
    obtain ⟨-, rfl, -⟩ :=
      clear.eq_of_trips split ⟨most ▸ Nat.lt_succ_self _, .inr ⟨isRejected, most⟩⟩
    rw [QueryResult.not_isRejected isRefused] at isRejected
    cases isRejected
  exact
    { unplanned := by simp [planned]
      refused := by simp [refused]
      rejected := by simp [notRejected]
      unavailable := by simp [refused]
      answered := by simp [refused]
      errors := by simp
      final := fun _ _ _ split trips => (clear.eq_of_trips split trips).2.2 }

theorem verdict_of_isRejected (planned : plan ≠ []) (clear : Clear settings log)
    {item : PlannedQuery} {result : QueryResult} (isRejected : result.isRejected = true)
    (most : rejections log + 1 = mostRejections settings) :
    Verdict settings plan (log ++ [(item, result)])
      (.error (.queryBuilderDefect (mostRejections settings))) := by
  have rejected : Rejected settings (log ++ [(item, result)]) :=
    ⟨log, _, [], rfl, isRejected, most, clear.accepted⟩
  have notRefused : ¬ Refused settings (log ++ [(item, result)]) := by
    rintro ⟨before, entry, after, split, isRefused, few⟩
    obtain ⟨-, rfl, -⟩ := clear.eq_of_trips split ⟨few, .inl isRefused⟩
    rw [QueryResult.not_isRejected isRefused] at isRejected
    cases isRejected
  exact
    { unplanned := by simp [planned]
      refused := by simp [notRefused]
      rejected := by simp [rejected, eq_comm]
      unavailable := by simp [rejected]
      answered := by simp [rejected]
      errors := by simp
      final := fun _ _ _ split trips => (clear.eq_of_trips split trips).2.2 }

theorem Ending.verdict {result : Except RunError SearchOutcome}
    (ending : Ending settings plan log result) : Verdict settings plan log result := by
  cases ending with
  | unplanned unplanned =>
    exact
      { unplanned := by simp [unplanned]
        refused := by simp [(@clear_nil settings).not_refused]
        rejected := by simp [(@clear_nil settings).not_rejected]
        unavailable := by simp [unplanned]
        answered := by simp [unplanned]
        errors := by simp
        final := fun _ _ _ split trips => absurd trips (clear_nil.not_trips split) }
  | tripped planned clear ended =>
    rcases ended with ⟨isRefused, rfl⟩ | ⟨isRejected, most, rfl⟩
    · exact verdict_of_isRefused planned clear isRefused
    · exact verdict_of_isRejected planned clear isRejected most
  | unavailable planned clear unanswered =>
    exact
      { unplanned := by simp [planned]
        refused := by simp [clear.not_refused]
        rejected := by simp [clear.not_rejected]
        unavailable := by
          simp [planned, unanswered, clear.not_refused, clear.not_rejected, eq_comm]
        answered := by simp [unanswered]
        errors := by simp
        final := fun _ _ _ split trips => absurd trips (clear.not_trips split) }
  | answered planned clear answered =>
    exact
      { unplanned := by simp [planned]
        refused := by simp [clear.not_refused]
        rejected := by simp [clear.not_rejected]
        unavailable := by simp [answered]
        answered := by simp [planned, answered, clear.not_refused, clear.not_rejected]
        errors := by simp
        final := fun _ _ _ split trips => absurd trips (clear.not_trips split) }

end Verdict

/-- **How a search ends.** A search that nobody cancels sends queries of its plan in their order,
each until a result is final or no attempt is left, and comes to what their last results say: without
a plan it sends nothing, a refused query or enough rejected ones end it there, and it fails as well
if every query of the plan did. Otherwise it has an outcome. -/
theorem verdict_run (settings : SearchSettings) (strategies : List SearchStrategy)
    {service : Service} (calm : service.IsCalm) :
    ∃ log,
      Sent settings (Gate.opening settings.requestsPerMinute service.clock.now) service log
        (run settings strategies service).2 ∧
      Heard settings service.answer service.calls.length log ∧
      log.map (·.1) <+: Plan.ofStrategies strategies ∧
      (Plan.ofStrategies strategies = [] → (run settings strategies service).2 = service) ∧
      Verdict settings (Plan.ofStrategies strategies) log (run settings strategies service).1 := by
  obtain ⟨log, sent, ofPlan, ending⟩ := ending_run settings strategies calm
  refine ⟨log, sent, sent.heard calm, ofPlan, fun unplanned => ?_, ending.verdict⟩
  rw [run_of_eq_nil settings unplanned]

/-! ### A search in which two of three queries are rejected -/

def strictSettings : SearchSettings :=
  { sampleSettings with maxPatents := 5, maxBadRequests := 2 }

/-- The second query is answered, the others are rejected. -/
def strictService : Service :=
  { clock := .start
    calls := []
    answer
      | 1 => ⟨0, false, .ok ⟨false, 0, 0, [sampleRow "P1"]⟩⟩
      | _ => ⟨0, false, .error (.status Failure.badRequest none "")⟩ }

theorem verdict_run_strict :
    strictService.IsCalm ∧ ∃ log,
      Sent strictSettings (Gate.opening strictSettings.requestsPerMinute 0) strictService log
        (run strictSettings sampleStrategies strictService).2 ∧
      Heard strictSettings strictService.answer 0 log ∧
      log.map (·.1) <+: Plan.ofStrategies sampleStrategies ∧
      (run strictSettings sampleStrategies strictService).1 = .error (.queryBuilderDefect 2) ∧
      Rejected strictSettings log := by
  have calm : strictService.IsCalm := by
    refine ⟨⟨rfl, rfl⟩, fun n => ?_⟩
    rcases n with _ | _ | n <;> rfl
  obtain ⟨log, sent, heard, ofPlan, -, verdict⟩ := verdict_run strictSettings sampleStrategies calm
  have result : (run strictSettings sampleStrategies strictService).1 =
      .error (.queryBuilderDefect 2) := by
    rw [run, Plan.ofStrategies, inOrder_sampleStrategies]
    decide +kernel
  exact ⟨calm, log, sent, heard, ofPlan, result, ((verdict.rejected 2).1 result).2⟩

end Search

end PriorArt
