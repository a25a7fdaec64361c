import PriorArt.Proofs.Cancellation.Session

/-!
# Sessions that nobody cancels

In a session that nobody cancels every call is answered (`IsCalm.ask_eq`) and every wait comes to
its end (`IsCalm.sleep_eq`, `IsCalm.acquire_eq`). Nothing but the time and the calls change.
-/

namespace PriorArt

/-- Nobody cancels the run, now or later. -/
structure Clock.IsCalm (clock : Clock) : Prop where
  uncancelled : clock.cancelled = false
  unset : clock.cancelAt = none

/-- What becomes of a call that is answered. -/
def Reply.ofResult {α : Type} : Except Failure α → Reply α
  | .ok value => .answered value
  | .error failure => .failed failure

namespace Session

variable {Question α : Type}

def atTime (session : Session Question α) (now : Nat) : Session Question α :=
  { session with clock := { session.clock with now } }

@[simp] theorem answer_atTime (session : Session Question α) (now : Nat) :
    (session.atTime now).answer = session.answer := rfl

@[simp] theorem calls_atTime (session : Session Question α) (now : Nat) :
    (session.atTime now).calls = session.calls := rfl

@[simp] theorem answer_calling (session : Session Question α) (question : Question) :
    (session.calling question).answer = session.answer := rfl

@[simp] theorem calls_calling (session : Session Question α) (question : Question) :
    (session.calling question).calls = session.calls ++ [⟨session.clock.now, question⟩] := rfl

theorem answered_of_ask {session after : Session Question α} {question : Question}
    {reply : Reply α} (asked : session.ask question = (reply, after)) (kept : reply ≠ .cancelled) :
    reply = .ofResult (session.answer session.calls.length).result ∧
      after.calls = session.calls ++ [⟨session.clock.now, question⟩] := by
  rcases calls_of_ask asked with ⟨cancelled, -⟩ | made
  · exact absurd cancelled kept
  refine ⟨?_, made⟩
  rcases Bool.eq_false_or_eq_true session.clock.cancelled with cancelled | uncancelled
  · rw [ask_of_cancelled cancelled] at asked
    exact absurd (Prod.mk.inj asked).1.symm kept
  rcases Bool.eq_false_or_eq_true (session.answer session.calls.length).cancels with cancels | quiet
  · rw [ask_of_cancels uncancelled cancels] at asked
    exact absurd (Prod.mk.inj asked).1.symm kept
  rw [ask_of_quiet uncancelled quiet] at asked
  have isHeard := (Prod.mk.inj asked).1
  generalize ((session.calling question).sleep _).1 = reached at isHeard
  cases reached with
  | false => exact absurd isHeard.symm kept
  | true =>
    rw [← isHeard]
    cases (session.answer session.calls.length).result <;> rfl

theorem result_of_failed {session after : Session Question α} {question : Question}
    {failure : Failure} (asked : session.ask question = (.failed failure, after)) :
    (session.answer session.calls.length).result = .error failure := by
  have answered := (answered_of_ask asked (Reply.failed_ne_cancelled failure)).1
  cases result : (session.answer session.calls.length).result with
  | ok value =>
    rw [result] at answered
    cases answered
  | error other =>
    rw [result] at answered
    cases answered
    rfl

theorem result_of_answered {session after : Session Question α} {question : Question} {value : α}
    (asked : session.ask question = (.answered value, after)) :
    (session.answer session.calls.length).result = .ok value := by
  have answered := (answered_of_ask asked (Reply.answered_ne_cancelled value)).1
  cases result : (session.answer session.calls.length).result with
  | ok other =>
    rw [result] at answered
    cases answered
    rfl
  | error failure =>
    rw [result] at answered
    cases answered

/-- Nobody cancels, and no answer does. -/
structure IsCalm (session : Session Question α) : Prop where
  clock : session.clock.IsCalm
  quiet : ∀ n, (session.answer n).cancels = false

namespace IsCalm

variable {session : Session Question α}

theorem atTime (calm : session.IsCalm) (now : Nat) : (session.atTime now).IsCalm :=
  ⟨⟨calm.clock.uncancelled, calm.clock.unset⟩, calm.quiet⟩

theorem calling (calm : session.IsCalm) (question : Question) : (session.calling question).IsCalm :=
  ⟨calm.clock, calm.quiet⟩

theorem ofClock (calm : session.IsCalm) {clock : Clock} (calmClock : clock.IsCalm) :
    IsCalm { session with clock } :=
  ⟨calmClock, calm.quiet⟩

theorem waitUntil (calm : session.IsCalm) (time : Nat) :
    session.clock.waitUntil time =
      (true, (session.atTime (max session.clock.now time)).clock) :=
  Clock.waitUntil_of_uncancelled calm.clock.uncancelled calm.clock.unset time

theorem sleep_eq (calm : session.IsCalm) (duration : Nat) :
    session.sleep duration =
      (true, session.atTime (session.clock.afterWait duration)) := by
  have later : session.clock.now ≤ session.clock.afterWait duration := Nat.le_add_right ..
  rw [Session.sleep, Clock.sleep, calm.waitUntil, Nat.max_eq_right later]
  rfl

theorem sleep (calm : session.IsCalm) (duration : Nat) :
    ∃ now, session.sleep duration = (true, session.atTime now) :=
  ⟨_, calm.sleep_eq duration⟩

theorem ask_eq (calm : session.IsCalm) (question : Question) :
    session.ask question =
      (.ofResult (session.answer session.calls.length).result,
        (session.calling question).atTime
          (session.clock.afterWait (session.answer session.calls.length).delay)) := by
  rw [ask_of_quiet calm.clock.uncancelled (calm.quiet _), (calm.calling question).sleep_eq]
  cases (session.answer session.calls.length).result <;> rfl

theorem ask (calm : session.IsCalm) (question : Question) :
    ∃ now, session.ask question =
      (.ofResult (session.answer session.calls.length).result,
        (session.calling question).atTime now) :=
  ⟨_, calm.ask_eq question⟩

theorem of_ask (calm : session.IsCalm) {question : Question} {reply : Reply α}
    {after : Session Question α} (asked : session.ask question = (reply, after)) :
    after.IsCalm := by
  obtain ⟨now, answered⟩ := calm.ask question
  obtain ⟨-, rfl⟩ := Prod.mk.inj (answered.symm.trans asked)
  exact (calm.calling question).atTime now

theorem of_sleep (calm : session.IsCalm) {duration : Nat} {reached : Bool}
    {after : Session Question α} (slept : session.sleep duration = (reached, after)) :
    after.IsCalm := by
  obtain ⟨now, waited⟩ := calm.sleep duration
  obtain ⟨-, rfl⟩ := Prod.mk.inj (waited.symm.trans slept)
  exact calm.atTime now

theorem now_of_ask (calm : session.IsCalm) {question : Question} {reply : Reply α}
    {after : Session Question α} (asked : session.ask question = (reply, after)) :
    after.clock.now = session.clock.afterWait (session.answer session.calls.length).delay := by
  obtain ⟨-, rfl⟩ := Prod.mk.inj (asked.symm.trans (calm.ask_eq question))
  rfl

theorem now_of_sleep (calm : session.IsCalm) {duration : Nat} {reached : Bool}
    {after : Session Question α} (slept : session.sleep duration = (reached, after)) :
    after.clock.now = session.clock.afterWait duration := by
  obtain ⟨-, rfl⟩ := Prod.mk.inj (slept.symm.trans (calm.sleep_eq duration))
  rfl

theorem reached (calm : session.IsCalm) {duration : Nat} {reached : Bool}
    {after : Session Question α} (slept : session.sleep duration = (reached, after)) :
    reached = true := by
  obtain ⟨now, waited⟩ := calm.sleep duration
  exact (Prod.mk.inj (slept.symm.trans waited)).1

theorem ne_cancelled (calm : session.IsCalm) {question : Question} {reply : Reply α}
    {after : Session Question α} (asked : session.ask question = (reply, after)) :
    reply ≠ .cancelled := by
  obtain ⟨now, answered⟩ := calm.ask question
  obtain ⟨rfl, -⟩ := Prod.mk.inj (answered.symm.trans asked)
  rcases (session.answer session.calls.length).result with failure | value
  · exact Reply.failed_ne_cancelled failure
  · exact Reply.answered_ne_cancelled value

theorem calls_of_ask (calm : session.IsCalm) {question : Question} {reply : Reply α}
    {after : Session Question α} (asked : session.ask question = (reply, after)) :
    after.calls = session.calls ++ [⟨session.clock.now, question⟩] :=
  (answered_of_ask asked (calm.ne_cancelled asked)).2

theorem length_ask (calm : session.IsCalm) {question : Question} {reply : Reply α}
    {after : Session Question α} (asked : session.ask question = (reply, after)) :
    after.calls.length = session.calls.length + 1 :=
  length_calls_of_ask asked (calm.ne_cancelled asked)

/-- What goes on from a question makes at least that call. -/
theorem length_lt (calm : session.IsCalm) {question : Question} {after : Session Question α}
    (further : Extends (session.ask question).2 after) :
    session.calls.length < after.calls.length := by
  have length : (session.ask question).2.calls.length = session.calls.length + 1 :=
    calm.length_ask rfl
  have more := further.calls.length_le
  omega

/-- A permit is taken when it is due, or at once if it is overdue. -/
theorem acquire_eq (calm : session.IsCalm) (gate : Gate) :
    gate.acquire session.clock =
      (true, gate.taken (max session.clock.now gate.dueMilli),
        (session.atTime (max session.clock.now gate.dueMilli)).clock) := by
  have later : session.clock.now ≤ max session.clock.now gate.dueMilli := Nat.le_max_left ..
  rw [Gate.acquire, calm.waitUntil, Nat.max_eq_right later]
  rfl

theorem acquire (calm : session.IsCalm) (gate : Gate) :
    ∃ gate' now, gate.acquire session.clock = (true, gate', (session.atTime now).clock) :=
  ⟨_, _, calm.acquire_eq gate⟩

end IsCalm

end Session

end PriorArt
