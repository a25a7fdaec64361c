import PriorArt.Provider.Failure
import PriorArt.Run.Clock

/-!
# Sessions with outside services

An outside service is anything that answers questions: it is given by its answers to the first
call, the second call and so on. A session is the use of one service by a run, with the calls made
so far.
-/

namespace PriorArt

/-- How a service answers a call: after a delay in milliseconds, and perhaps so that the run is
cancelled at the moment of the call. -/
structure Answer (α : Type) where
  delay : Nat
  cancels : Bool
  result : Except Failure α

/-- A call of a service: when it was made, and what was asked. -/
structure Call (Question : Type) where
  time : Nat
  question : Question
  deriving Inhabited

/-- The use of a service: its answers by the number of the call, counted from zero, and the calls
made, in their order. -/
structure Session (Question α : Type) where
  clock : Clock
  answer : Nat → Answer α
  calls : List (Call Question)

/-- What becomes of a call. -/
inductive Reply (α : Type) where
  | cancelled
  | failed (failure : Failure)
  | answered (value : α)

namespace Session

variable {Question α : Type}

/-- Asks a question. Nothing is asked once the run is cancelled, and a call that is under way when
it is cancelled is given up. -/
def ask (session : Session Question α) (question : Question) :
    Reply α × Session Question α :=
  if session.clock.cancelled then (.cancelled, session)
  else
    let answer := session.answer session.calls.length
    let calls := session.calls ++ [⟨session.clock.now, question⟩]
    if answer.cancels then (.cancelled, { session with calls, clock := session.clock.cancel })
    else
      let (reached, clock) := session.clock.sleep answer.delay
      let reply :=
        if reached then
          match answer.result with
          | .ok value => .answered value
          | .error failure => .failed failure
        else .cancelled
      (reply, { session with calls, clock })

@[simp] theorem answer_ask (session : Session Question α) (question : Question) :
    (session.ask question).2.answer = session.answer := by
  unfold ask
  split
  · rfl
  · dsimp only
    split <;> rfl

theorem ask_of_cancelled {session : Session Question α} (h : session.clock.cancelled = true)
    (question : Question) : session.ask question = (.cancelled, session) := by
  simp [ask, h]

theorem calls_ask {session : Session Question α} (h : session.clock.cancelled = false)
    (question : Question) :
    (session.ask question).2.calls = session.calls ++ [⟨session.clock.now, question⟩] := by
  simp only [ask, h, Bool.false_eq_true, if_false]
  split <;> rfl

def sleep (session : Session Question α) (duration : Nat) : Bool × Session Question α :=
  let (reached, clock) := session.clock.sleep duration
  (reached, { session with clock })

theorem calls_of_ask {session after : Session Question α} {question : Question} {reply : Reply α}
    (asked : session.ask question = (reply, after)) :
    reply = .cancelled ∧ after.calls = session.calls ∨
      after.calls = session.calls ++ [⟨session.clock.now, question⟩] := by
  cases cancelled : session.clock.cancelled with
  | true =>
    rw [ask_of_cancelled cancelled] at asked
    cases asked
    exact .inl ⟨rfl, rfl⟩
  | false =>
    have calls := calls_ask cancelled question
    rw [asked] at calls
    exact .inr calls

theorem length_calls_of_ask {session after : Session Question α} {question : Question}
    {reply : Reply α} (asked : session.ask question = (reply, after)) (kept : reply ≠ .cancelled) :
    after.calls.length = session.calls.length + 1 := by
  rcases calls_of_ask asked with ⟨cancelled, -⟩ | made
  · exact absurd cancelled kept
  · rw [made, List.length_append, List.length_singleton]

theorem calls_of_sleep {session after : Session Question α} {duration : Nat} {reached : Bool}
    (slept : session.sleep duration = (reached, after)) : after.calls = session.calls := by
  cases slept
  rfl

end Session

end PriorArt
