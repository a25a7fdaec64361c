import PriorArt.Proofs.Search.Outcome

/-!
# The accounts of a search

What a search counts agrees with the calls it made and the queries it sent. Each query takes one
call for every attempt (`Step.balanced`), so the accounts are balanced along a trail
(`Trail.balanced`), and the outcome shows them (`isBalanced_run`).
-/

namespace PriorArt

namespace Search

variable {settings : SearchSettings}

/-- The greatest number of calls for one query. -/
def mostAttempts (settings : SearchSettings) : Nat :=
  max settings.maxAttempts 1

/-- What was counted agrees with the log and with the calls made since the service had made some. -/
structure Balanced (settings : SearchSettings) (made : Nat) (log : Log) (stand : Stand) : Prop where
  calls : stand.service.calls.length = made + stand.progress.apiCalls
  sent : stand.progress.executed + stand.progress.failed = log.length
  repeated : stand.progress.apiCalls = stand.progress.retries + log.length
  bounded : stand.progress.apiCalls ≤ mostAttempts settings * log.length
  /-- Only an answer fills the cap. -/
  answered : stand.progress.capReachedBy ≠ none → 1 ≤ stand.progress.executed

theorem balanced_empty (gate : Gate) (service : Service) :
    Balanced settings service.calls.length [] ⟨gate, .empty, service⟩ where
  calls := rfl
  sent := rfl
  repeated := rfl
  bounded := Nat.zero_le _
  answered := fun capped => absurd rfl capped

/-- What the last result of a query adds to the counts. -/
structure AddsTo (progress : Progress) (result : QueryResult) (next : Progress) : Prop where
  apiCalls : next.apiCalls = progress.apiCalls + result.attempts
  retries : next.retries = progress.retries + (result.attempts - 1)
  sent : next.executed + next.failed = progress.executed + progress.failed + 1
  executed : progress.executed ≤ next.executed
  answered : progress.capReachedBy = none → next.capReachedBy ≠ none → 1 ≤ next.executed

theorem addsTo_of_note {progress next : Progress} {item : PlannedQuery} {result : QueryResult}
    (noted : progress.note settings item result = .ok next) : AddsTo progress result next := by
  rcases Progress.note_eq_ok noted with
    ⟨response, attempts, rfl, rfl⟩ | ⟨failure, attempts, badRequests, rfl, rfl⟩
  · exact
      { apiCalls := rfl
        retries := rfl
        sent := Nat.add_right_comm progress.executed 1 progress.failed
        executed := Nat.le_succ progress.executed
        answered := fun _ _ => Nat.le_add_left 1 progress.executed }
  · exact
      { apiCalls := rfl
        retries := rfl
        sent := rfl
        executed := Nat.le_refl progress.executed
        answered := fun uncapped capped => absurd uncapped capped }

theorem Step.balanced {stand next : Stand} {entry : PlannedQuery × QueryResult}
    (step : Step settings stand entry next) {made : Nat} {log : Log}
    (balanced : Balanced settings made log stand) :
    Balanced settings made (log ++ [entry]) next := by
  obtain ⟨clock, -, sent⟩ := step.sent
  obtain ⟨length, atLeast, atMost⟩ := length_calls_attempt sent
  obtain ⟨apiCalls, retries, added, executed, filled⟩ := addsTo_of_note step.noted
  obtain ⟨calls, issued, repeated, bounded, answered⟩ := balanced
  have few : entry.2.attempts ≤ mostAttempts settings := by
    unfold mostAttempts
    omega
  have oneMore : (log ++ [entry]).length = log.length + 1 := by simp
  refine ⟨?_, ?_, ?_, ?_, ?_⟩
  · dsimp only at length
    omega
  · omega
  · omega
  · rw [oneMore, Nat.mul_succ]
    omega
  · intro capped
    by_cases before : stand.progress.capReachedBy = none
    · exact filled before capped
    · exact Nat.le_trans (answered before) executed

theorem Trail.balanced {stand last : Stand} {log : Log} (trail : Trail settings stand log last)
    {made : Nat} : ∀ {earlier : Log}, Balanced settings made earlier stand →
      Balanced settings made (earlier ++ log) last := by
  induction trail with
  | nil stand =>
    intro earlier balanced
    rwa [List.append_nil]
  | cons step _ ih =>
    intro earlier balanced
    rw [List.append_cons]
    exact ih (step.balanced balanced)

end Search

open Search

/-- The counts of an outcome agree with the queries that were sent and the number of calls that were
made. -/
structure SearchOutcome.IsBalanced (settings : SearchSettings) (log : Log) (made : Nat)
    (outcome : SearchOutcome) : Prop where
  apiCalls : outcome.apiCalls = made
  sent : outcome.executed + outcome.failed = log.length
  planned : outcome.planned = outcome.queries.length
  within : outcome.executed + outcome.failed ≤ outcome.planned
  uncapped : outcome.capReachedBy = none → outcome.executed + outcome.failed = outcome.planned
  answered : 1 ≤ outcome.executed
  /-- Every query takes a call, and all others are repeats. -/
  retries : outcome.retries + (outcome.executed + outcome.failed) = outcome.apiCalls
  bounded : outcome.apiCalls ≤ mostAttempts settings * (outcome.executed + outcome.failed)

namespace Search

/-- **The accounts of a search.** The counts of an outcome agree with the calls of the service and
with the queries that were sent, which are the first ones of the plan. -/
theorem isBalanced_run {strategies : List SearchStrategy} {service : Service}
    {outcome : SearchOutcome} (ok : (run settings strategies service).1 = .ok outcome) :
    ∃ log made,
      Sent settings (Gate.opening settings.requestsPerMinute service.clock.now) service log
        (run settings strategies service).2 ∧
      log.map (·.1) <+: outcome.queries ∧
      (run settings strategies service).2.calls.length = service.calls.length + made ∧
      outcome.IsBalanced settings log made := by
  obtain ⟨log, rest, stand, split, trail, closed, concluded, after⟩ := run_eq_ok ok
  obtain ⟨calls, sent, repeated, bounded, answered⟩ := trail.balanced (balanced_empty _ _)
  rw [List.nil_append] at sent repeated bounded
  have length : (Plan.ofStrategies strategies).length = log.length + rest.length := by
    rw [split, List.length_append, List.length_map]
  have whole : stand.progress.capReachedBy = none → rest = [] := by
    intro uncapped
    cases rest with
    | nil => rfl
    | cons next others => simp [Progress.isClosedTo, uncapped] at closed
  unfold conclude at concluded
  split at concluded
  case isTrue => cases concluded
  case isFalse notAll =>
    cases concluded
    refine ⟨log, _, after ▸ trail.sent, split ▸ List.prefix_append .., after ▸ calls, ?_⟩
    exact
      { apiCalls := rfl
        sent
        planned := rfl
        within := by
          show stand.progress.executed + stand.progress.failed ≤
            (Plan.ofStrategies strategies).length
          omega
        uncapped := by
          intro uncapped
          rw [whole uncapped] at length
          show stand.progress.executed + stand.progress.failed = _
          rw [sent]
          exact length.symm
        answered := by
          by_cases uncapped : stand.progress.capReachedBy = none
          · rw [whole uncapped, List.length_nil] at length
            show 1 ≤ stand.progress.executed
            omega
          · exact answered uncapped
        retries := by
          show stand.progress.retries + (stand.progress.executed + stand.progress.failed) = _
          rw [sent, repeated]
        bounded := by
          show stand.progress.apiCalls ≤
            _ * (stand.progress.executed + stand.progress.failed)
          rw [sent]
          exact bounded }

/-! ### A search that stops at its cap -/

def haltingSettings : SearchSettings :=
  { sampleSettings with maxAttempts := 2 }

/-- The first query is answered when it is sent again, and fills the cap; the second one of its
strategy is not found. -/
def haltingService : Service :=
  { clock := .start
    calls := []
    answer
      | 0 => ⟨0, false, .error (.status 500 none "")⟩
      | 1 => ⟨0, false, .ok ⟨false, 0, 0, [sampleRow "P1"]⟩⟩
      | _ => ⟨0, false, .error (.status 404 none "")⟩ }

/-- The third query is left out: two were sent, with three calls. -/
theorem isBalanced_run_halting : ∃ outcome log made,
    (run haltingSettings sampleStrategies haltingService).1 = .ok outcome ∧
    ([outcome.planned, outcome.executed, outcome.failed, outcome.apiCalls, outcome.retries],
      outcome.capReachedBy) = ([3, 1, 1, 3, 1], some "B") ∧
    (run haltingSettings sampleStrategies haltingService).2.calls.length = made ∧
    outcome.IsBalanced haltingSettings log made := by
  have found : (run haltingSettings sampleStrategies haltingService).1.toOption.map (fun outcome =>
      ([outcome.planned, outcome.executed, outcome.failed, outcome.apiCalls, outcome.retries],
        outcome.capReachedBy)) = some ([3, 1, 1, 3, 1], some "B") := by
    rw [run, Plan.ofStrategies, inOrder_sampleStrategies]
    decide +kernel
  cases ok : (run haltingSettings sampleStrategies haltingService).1 with
  | error error => simp [ok, Except.toOption] at found
  | ok outcome =>
    rw [ok] at found
    obtain ⟨log, made, -, -, calls, balanced⟩ := isBalanced_run ok
    rw [show haltingService.calls = [] from rfl, List.length_nil, Nat.zero_add] at calls
    exact ⟨outcome, log, made, rfl, Option.some.inj found, calls, balanced⟩

end Search

end PriorArt
