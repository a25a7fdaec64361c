import Mathlib.Algebra.Group.Nat.Defs
import Mathlib.Tactic.ByContra
import Mathlib.Tactic.SplitIfs
import PriorArt.Proofs.Cancellation.Search
import PriorArt.Proofs.Session.Attempts

/-!
# The last result of a query

1. `GivesUp`, `IsFinal`: the results after which a query is not sent again. Only the first timeout
   of a query is not one of them (`IsTimeout.isFinal`).
2. `waitAfter`: the wait that a failure calls for, which never exceeds what a duration can hold
   (`seconds_doubled_lt`).
3. `stops_of_send`: a query that nobody cancels has a last result: the first final one that the
   service has for it, or the one with which the attempts are used up.
-/

namespace PriorArt

open Session

theorem Failure.failureClass_eq_timeout_iff {failure : Failure} :
    failure.failureClass = .timeout ↔ ∃ detail, failure = .timeout detail := by
  cases failure with
  | timeout detail => exact iff_of_true rfl ⟨detail, rfl⟩
  | status code retryAfter body =>
    refine iff_of_false ?_ (by simp)
    show classOfStatus code ≠ .timeout
    unfold classOfStatus
    split_ifs <;> decide
  | _ => simp [failureClass]

namespace Search

/-! ## Final results -/

/-- The query was not answered in time. -/
def IsTimeout (result : Except Failure SearchResponse) : Prop :=
  ∃ detail, result = .error (.timeout detail)

/-- No attempt follows the failure: it is neither a rate limit nor the fault of the server, and it
is not the first timeout. -/
structure GivesUp (timedOut : Prop) (failure : Failure) : Prop where
  allowed : failure.status? ≠ some 429
  notServer : ∀ status ∈ failure.status?, status < 500
  notFirst : (∃ detail, failure = .timeout detail) → timedOut

/-- The query is not sent again after the result with a number. -/
def IsFinal (results : Nat → Except Failure SearchResponse) (n : Nat) : Prop :=
  ∀ failure, results n = .error failure → GivesUp (∃ m < n, IsTimeout (results m)) failure

variable {results : Nat → Except Failure SearchResponse}

theorem isFinal_of_ok {n : Nat} {response : SearchResponse} (answered : results n = .ok response) :
    IsFinal results n := by
  intro failure failed
  rw [answered] at failed
  cases failed

theorem isFinal_iff_of_error {n : Nat} {failure : Failure} (failed : results n = .error failure) :
    IsFinal results n ↔ GivesUp (∃ m < n, IsTimeout (results m)) failure := by
  refine ⟨fun final => final failure failed, fun gives other otherFailed => ?_⟩
  rw [failed] at otherFailed
  cases otherFailed
  exact gives

theorem IsTimeout.isFinal {m n : Nat} (first : IsTimeout (results m)) (before : m < n)
    (again : IsTimeout (results n)) : IsFinal results n := by
  obtain ⟨detail, failed⟩ := again
  refine (isFinal_iff_of_error failed).2 ⟨?_, ?_, fun _ => ⟨m, before, first⟩⟩
  · rintro ⟨⟩
  · rintro status ⟨⟩

/-! ## Delays -/

/-- The wait after the failure of the attempt with a number, counted from one: the one that a rate
limit names, or else the base, doubled with every attempt but at most twice. -/
def waitAfter (base number : Nat) (failure : Failure) : Nat :=
  if failure.status? = some 429 ∧ failure.retryAfter?.getD 0 ≠ 0 then
    failure.retryAfter?.getD 0 * 1000
  else base * 2 ^ min (number - 1) 2

/-- The doubled base is a whole number of seconds that 64 bits can hold. -/
theorem seconds_doubled_lt {base : Nat} (fits : base < 2 ^ 64) (number : Nat) :
    base * 2 ^ min (number - 1) 2 / 1000 < 2 ^ 64 := by
  have few : base * 2 ^ min (number - 1) 2 ≤ base * 4 := backoffDelay_le base number
  omega

theorem retryDelay?_status (base number : Nat) (timedOut : Bool) (code : Nat)
    (retryAfter : Option Nat) (body : String) :
    retryDelay? base number timedOut (.status code retryAfter body) =
      if code = 429 ∨ 500 ≤ code then some (waitAfter base number (.status code retryAfter body))
      else none := by
  unfold retryDelay? waitAfter Failure.failureClass Failure.classOfStatus Failure.tooManyRequests
    Failure.status? Failure.retryAfter?
  by_cases limited : code = 429
  · subst limited
    rcases retryAfter with _ | _ | seconds
    · rfl
    · rfl
    · rfl
  · by_cases server : 500 ≤ code
    · simp only [limited, server, if_false, if_true, false_or, Option.some.injEq, false_and]
      rfl
    · simp only [limited, server, if_false, or_false]
      split_ifs <;> rfl

theorem retryDelay?_timeout (base number : Nat) (timedOut : Bool) (detail : String) :
    retryDelay? base number timedOut (.timeout detail) =
      if timedOut = true then none else some (waitAfter base number (.timeout detail)) := by
  cases timedOut
  · rfl
  · rfl

theorem retryDelay?_eq_none_iff {base number : Nat} {timedOut : Bool} {failure : Failure} :
    retryDelay? base number timedOut failure = none ↔ GivesUp (timedOut = true) failure := by
  cases failure with
  | status code retryAfter body =>
    rw [retryDelay?_status]
    constructor
    · intro none
      have others : ¬ (code = 429 ∨ 500 ≤ code) := by
        intro passes
        rw [if_pos passes] at none
        cases none
      exact ⟨by simpa [Failure.status?] using not_or.1 others |>.1,
        by simpa [Failure.status?] using not_or.1 others |>.2, by simp⟩
    · intro gives
      have limited : code ≠ 429 := by simpa [Failure.status?] using gives.allowed
      have server : code < 500 := by simpa [Failure.status?] using gives.notServer
      exact if_neg (by omega)
  | timeout detail =>
    rw [retryDelay?_timeout]
    constructor
    · intro none
      refine ⟨by rintro ⟨⟩, by rintro status ⟨⟩, fun _ => ?_⟩
      by_contra first
      rw [if_neg first] at none
      cases none
    · intro gives
      exact if_pos (gives.notFirst ⟨detail, rfl⟩)
  | _ => exact iff_of_true rfl ⟨by rintro ⟨⟩, by rintro status ⟨⟩, by simp⟩

theorem eq_waitAfter_of_retryDelay? {base number delay : Nat} {timedOut : Bool} {failure : Failure}
    (delayed : retryDelay? base number timedOut failure = some delay) :
    delay = waitAfter base number failure := by
  cases failure with
  | status code retryAfter body =>
    rw [retryDelay?_status] at delayed
    split_ifs at delayed
    exact (Option.some.inj delayed).symm
  | timeout detail =>
    rw [retryDelay?_timeout] at delayed
    split_ifs at delayed
    exact (Option.some.inj delayed).symm
  | _ => cases delayed

/-! ## The last attempt -/

theorem attempt_of_isCalm (base : Nat) (query : TextQuery) (number : Nat) (timedOut : Bool)
    (left : Nat) {service : Service} (calm : service.IsCalm) :
    ∃ result after, attempt base query number timedOut left service = (some result, after) ∧
      after.IsCalm := by
  induction left generalizing number timedOut service with
  | zero =>
    obtain ⟨now, asked⟩ := calm.ask query
    rw [attempt, asked]
    cases (service.answer service.calls.length).result with
    | ok response => exact ⟨_, _, rfl, (calm.calling query).atTime now⟩
    | error failure => exact ⟨_, _, rfl, (calm.calling query).atTime now⟩
  | succ left ih =>
    obtain ⟨now, asked⟩ := calm.ask query
    have heard := (calm.calling query).atTime now
    rw [attempt, asked]
    cases (service.answer service.calls.length).result with
    | ok response => exact ⟨_, _, rfl, heard⟩
    | error failure =>
      dsimp only [Reply.ofResult]
      cases retryDelay? base number timedOut failure with
      | none => exact ⟨_, _, rfl, heard⟩
      | some delay =>
        obtain ⟨later, slept⟩ := heard.sleep delay
        dsimp only
        rw [slept]
        exact ih _ _ (heard.atTime later)

/-- The attempts for a query end with its first final result, or when none is left. -/
theorem stops_of_attempt {base number made left : Nat} {query : TextQuery} {timedOut : Bool}
    {service after : Service} {result : QueryResult} (calm : service.IsCalm)
    (attempted : attempt base query number timedOut left service = (some result, after))
    (counted : number = made + 1) (ahead : ∀ n, service.upcoming n = results (made + n))
    (noted : timedOut = true ↔ ∃ m < made, IsTimeout (results m)) :
    ∃ last, Stops (fun n => IsFinal results (made + n)) (left + 1) last ∧
      result = ⟨results (made + last), made + last + 1⟩ := by
  fun_induction attempt base query number timedOut left service generalizing made with
  | case1 => cases attempted
  | case2 left number timedOut service response heard asked =>
    cases attempted
    have answered : results made = .ok response :=
      (ahead 0).symm.trans (upcoming_zero_of_answered asked)
    exact ⟨0, .of_isFinal (isFinal_of_ok answered), by rw [counted, ← answered]; rfl⟩
  | case3 number timedOut service failure heard asked left delay delayed later slept ih =>
    have failed : results made = .error failure :=
      (ahead 0).symm.trans (upcoming_zero_of_failed asked)
    have going : ¬ IsFinal results made := by
      rw [isFinal_iff_of_error failed, ← noted, ← retryDelay?_eq_none_iff, delayed]
      rintro ⟨⟩
    have aheadThen : ∀ n, later.upcoming n = results (made + 1 + n) := by
      intro n
      rw [upcoming_of_sleep slept, calm.upcoming_of_ask asked, ahead, Nat.add_assoc,
        Nat.add_comm 1 n]
    have notedThen : (timedOut || decide (failure.failureClass = .timeout)) = true ↔
        ∃ m < made + 1, IsTimeout (results m) := by
      rw [Bool.or_eq_true, decide_eq_true_iff, Nat.exists_lt_succ_right, noted,
        Failure.failureClass_eq_timeout_iff, IsTimeout, failed]
      simp
    obtain ⟨last, stops, isLast⟩ := ih ((calm.of_ask asked).of_sleep slept) attempted
      (congrArg (· + 1) counted) aheadThen notedThen
    have shift (n : Nat) : made + 1 + n = made + (n + 1) := by omega
    simp only [shift] at stops isLast
    exact ⟨last + 1, stops.next going, isLast⟩
  | case4 => cases attempted
  | case5 left number timedOut service failure heard asked final =>
    cases attempted
    have failed : results made = .error failure :=
      (ahead 0).symm.trans (upcoming_zero_of_failed asked)
    refine ⟨0, ?_, by rw [counted, ← failed]; rfl⟩
    cases left with
    | zero => exact .of_single
    | succ left =>
      refine .of_isFinal ?_
      rw [Nat.add_zero, isFinal_iff_of_error failed, ← noted, ← retryDelay?_eq_none_iff,
        Option.eq_none_iff_forall_ne_some]
      exact fun delay => final left delay rfl

theorem isCalm_of_send {settings : SearchSettings} {query : TextQuery} {service after : Service}
    {result : Option QueryResult} (calm : service.IsCalm)
    (sent : send settings query service = (result, after)) : after.IsCalm := by
  obtain ⟨_, _, attempted, heard⟩ := attempt_of_isCalm settings.backoffBase query 1 false
    (settings.maxAttempts - 1) calm
  rwa [(Prod.mk.inj (attempted.symm.trans sent)).2] at heard

theorem answer_of_send {settings : SearchSettings} {query : TextQuery} {service after : Service}
    {result : Option QueryResult} (sent : send settings query service = (result, after)) :
    after.answer = service.answer := by
  have further := extends_attempt settings.backoffBase query 1 false (settings.maxAttempts - 1)
    service
  rw [show attempt settings.backoffBase query 1 false (settings.maxAttempts - 1) service =
    (result, after) from sent] at further
  exact further.answer

/-- The last result of a query is the first final one of those to come, or the last one for which an
attempt is left. -/
theorem stops_of_send {settings : SearchSettings} {query : TextQuery} {service after : Service}
    {result : QueryResult} (calm : service.IsCalm)
    (sent : send settings query service = (some result, after)) :
    ∃ last, Stops (IsFinal service.upcoming) (max settings.maxAttempts 1) last ∧
      result = ⟨service.upcoming last, last + 1⟩ := by
  have ahead (n : Nat) : service.upcoming n = service.upcoming (0 + n) := by rw [Nat.zero_add]
  obtain ⟨last, stops, isLast⟩ := stops_of_attempt calm sent rfl ahead (by simp)
  simp only [Nat.zero_add] at stops isLast
  have attempts : settings.maxAttempts - 1 + 1 = max settings.maxAttempts 1 := by omega
  rw [attempts] at stops
  exact ⟨last, stops, isLast⟩

end Search

end PriorArt
