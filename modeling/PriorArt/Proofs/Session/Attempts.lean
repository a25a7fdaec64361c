import Mathlib.Order.Bounds.Defs
import PriorArt.Proofs.Session.Calm

/-!
# Attempts

A question that is asked again and again gets the results that are still to come (`upcoming`), one
after the other, until one of them is final or the attempts are used up (`Stops`).
-/

namespace PriorArt

/-! ## The last attempt -/

/-- The last attempt, counted from zero: the first with a final result, or the last of so many. -/
def Stops (isFinal : Nat → Prop) (most last : Nat) : Prop :=
  IsLeast {n | isFinal n ∨ n + 1 = most} last

namespace Stops

variable {isFinal : Nat → Prop} {most last n : Nat}

theorem of_isFinal (final : isFinal 0) : Stops isFinal most 0 :=
  ⟨.inl final, fun _ _ => Nat.zero_le _⟩

theorem of_single : Stops isFinal 1 0 :=
  ⟨.inr rfl, fun _ _ => Nat.zero_le _⟩

/-- After a result that is not final the attempts go on as if they began with the next one. -/
theorem next {left : Nat} (going : ¬ isFinal 0)
    (stops : Stops (fun n => isFinal (n + 1)) (left + 1) last) :
    Stops isFinal (left + 1 + 1) (last + 1) := by
  obtain ⟨isLast, least⟩ := stops
  refine ⟨isLast.imp_right (congrArg (· + 1)), ?_⟩
  intro n stopped
  cases n with
  | zero =>
    rcases stopped with final | spent
    · exact absurd final going
    · omega
  | succ n => exact Nat.succ_le_succ (least (stopped.imp_right Nat.succ.inj))

theorem not_isFinal (stops : Stops isFinal most last) (before : n < last) : ¬ isFinal n :=
  fun final => Nat.not_lt_of_le (stops.2 (.inl final)) before

end Stops

/-! ## The results to come -/

namespace Session

variable {Question α : Type}

/-- The results of the calls that are still to come, from the next one on. -/
def upcoming (session : Session Question α) (n : Nat) : Except Failure α :=
  (session.answer (session.calls.length + n)).result

theorem upcoming_of_sleep {session after : Session Question α} {duration : Nat} {reached : Bool}
    (slept : session.sleep duration = (reached, after)) : after.upcoming = session.upcoming := by
  cases slept
  rfl

section Ask

variable {session after : Session Question α} {question : Question}

theorem upcoming_zero_of_failed {failure : Failure}
    (asked : session.ask question = (.failed failure, after)) :
    session.upcoming 0 = .error failure :=
  result_of_failed asked

theorem upcoming_zero_of_answered {value : α}
    (asked : session.ask question = (.answered value, after)) :
    session.upcoming 0 = .ok value :=
  result_of_answered asked

theorem IsCalm.upcoming_of_ask (calm : session.IsCalm) {reply : Reply α}
    (asked : session.ask question = (reply, after)) (n : Nat) :
    after.upcoming n = session.upcoming (n + 1) := by
  have answers : after.answer = session.answer := (asked ▸ session.extends_ask question).answer
  unfold upcoming
  rw [answers, calm.length_ask asked, Nat.add_right_comm, Nat.add_assoc]

end Ask

end Session

end PriorArt
