import PriorArt.Proofs.Search.Rate

/-!
# The attempts for one query

1. `Repeated.isRepeat`: when the attempts for a query are made.
2. `Persists`: the course of a query that nobody cancels (`persists_send`).
-/

namespace PriorArt

open Session

namespace Search

/-! ## The times of the attempts -/

theorem Repeated.isRepeat {base start number : Nat} {answer : Nat → Answer SearchResponse}
    {calls : List (Call TextQuery)} (repeated : Repeated base answer start number calls) :
    ∀ n, ∀ earlier ∈ calls[n]?, ∀ later ∈ calls[n + 1]?,
      IsRepeat base (number + n) (answer (start + n)) earlier later := by
  induction repeated with
  | last =>
    intro n earlier _ later isLater
    simp at isLater
  | @again start number first second rest again _ ih =>
    intro n earlier isEarlier later isLater
    cases n with
    | zero =>
      obtain rfl : first = earlier := by simpa using isEarlier
      obtain rfl : second = later := by simpa using isLater
      exact again
    | succ n =>
      have repeats := ih n earlier (by simpa using isEarlier) later (by simpa using isLater)
      rwa [Nat.add_right_comm, Nat.add_assoc, Nat.add_right_comm start, Nat.add_assoc start]
        at repeats

/-! ## The course of a query -/

/-- The course of a query that nobody cancels, with its calls and the number of the last one, counted
from zero. -/
structure Persists (settings : SearchSettings) (query : TextQuery) (service : Service) (last : Nat)
    (calls : List (Call TextQuery)) : Prop where
  stops : Stops (IsFinal service.upcoming) (max settings.maxAttempts 1) last
  count : calls.length = last + 1
  asked : ∀ call ∈ calls, call.question = query
  /-- At most one timeout is followed by another attempt. -/
  once : ∀ m n, m < n → n < last → IsTimeout (service.upcoming m) →
    ¬ IsTimeout (service.upcoming n)
  /-- The delay between two calls is the wait that the failure of the first one calls for. -/
  waits : ∀ n, ∀ earlier ∈ calls[n]?, ∀ later ∈ calls[n + 1]?, ∃ failure timedOut,
    service.upcoming n = .error failure ∧
    retryDelay? settings.backoffBase (n + 1) timedOut failure =
      some (waitAfter settings.backoffBase (n + 1) failure) ∧
    later.time =
      earlier.time + min (service.answer (service.calls.length + n)).delay Clock.longestWait +
        min (waitAfter settings.backoffBase (n + 1) failure) Clock.longestWait
  /-- The doubled base is a whole number of seconds that 64 bits can hold. -/
  fits : settings.backoffBase < 2 ^ 64 →
    ∀ number, settings.backoffBase * 2 ^ min (number - 1) 2 / 1000 < 2 ^ 64

/-- **The attempts for a query.** A query that nobody cancels is sent until a result is final or no
attempt is left. Its last result is that of the last call. -/
theorem persists_send (settings : SearchSettings) (query : TextQuery) {service : Service}
    (calm : service.IsCalm) :
    ∃ last calls,
      (send settings query service).1 = some ⟨service.upcoming last, last + 1⟩ ∧
      (send settings query service).2.calls = service.calls ++ calls ∧
      Persists settings query service last calls := by
  obtain ⟨result, after, attempted, -⟩ := attempt_of_isCalm settings.backoffBase query 1 false
    (settings.maxAttempts - 1) calm
  have sent : send settings query service = (some result, after) := attempted
  obtain ⟨last, stops, isLast⟩ := stops_of_send calm sent
  obtain ⟨repeats, taken⟩ := taken_of_attempt calm attempted
  have length := (length_calls_attempt attempted).1
  rw [taken.made, List.length_append, isLast] at length
  refine ⟨last, _, by rw [sent, isLast], by rw [sent, taken.made], ?_⟩
  exact
    { stops
      count := by dsimp only at length; omega
      asked := taken.asked
      once := fun m n before inTime first again =>
        stops.not_isFinal inTime (first.isFinal before again)
      waits := by
        intro n earlier isEarlier later isLater
        obtain ⟨failure, timedOut, delay, failed, delayed, time⟩ :=
          taken.repeated.isRepeat n earlier isEarlier later isLater
        rw [Nat.add_comm 1 n] at delayed
        obtain rfl := eq_waitAfter_of_retryDelay? delayed
        exact ⟨failure, timedOut, failed, delayed, time⟩
      fits := fun fits => seconds_doubled_lt fits }

/-! ### A query that is not answered in time -/

def restlessSettings : SearchSettings :=
  { steadySettings with maxAttempts := 5 }

/-- The first call is not answered in time, the second one is refused for two seconds, and the third
one is not answered in time again. -/
def restlessService : Service :=
  { clock := .start
    calls := []
    answer
      | 1 => ⟨0, false, .error (.status 429 (some 2) "")⟩
      | _ => ⟨0, false, .error (.timeout "")⟩ }

/-- The second timeout is final, though two attempts are left. -/
theorem persists_send_restless :
    restlessService.IsCalm ∧ restlessSettings.backoffBase < 2 ^ 64 ∧ ∃ last calls,
      (send restlessSettings default restlessService).1 = some ⟨.error (.timeout ""), 3⟩ ∧
      calls.map (·.time) = [0, 1000, 3000] ∧
      Persists restlessSettings default restlessService last calls := by
  have calm : restlessService.IsCalm := by
    refine ⟨⟨rfl, rfl⟩, fun n => ?_⟩
    rcases n with _ | _ | n <;> rfl
  obtain ⟨last, calls, -, made, persists⟩ := persists_send restlessSettings default calm
  have times : (send restlessSettings default restlessService).2.calls.map (·.time) =
      [0, 1000, 3000] := rfl
  rw [made, show restlessService.calls = [] from rfl, List.nil_append] at times
  exact ⟨calm, by decide, last, calls, rfl, times, persists⟩

end Search

end PriorArt
