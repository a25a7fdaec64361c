import PriorArt.Run.Gate
import PriorArt.Run.Session

/-!
# Sessions that are cancelled and sessions that are not

A session that may be cancelled is compared with the calm one, which is the same session when
nobody cancels.

1. `Extends`: a session only adds calls, keeps its answers and does not turn the clock back.
2. `Live`: the session is not cancelled and no call made so far cancels.
3. `Follows`: what is done with a live session is what is done with the calm one, unless it is given
   up; in that case the session is cancelled, and its calls are the first of the calm one.
4. The three things that are done with a session, to ask, to sleep and to wait, follow the calm
   session.
-/

namespace PriorArt

/-! ## Without a cancellation -/

def Clock.calm (clock : Clock) : Clock :=
  ⟨clock.now, false, none⟩

def Answer.calm {α : Type} (answer : Answer α) : Answer α :=
  { answer with cancels := false }

/-- The clock of a run that is not cancelled, and not overdue to be. -/
structure Clock.Live (clock : Clock) : Prop where
  uncancelled : clock.cancelled = false
  inTime : ∀ moment ∈ clock.cancelAt, clock.now ≤ moment

theorem Clock.live_calm (clock : Clock) : clock.calm.Live where
  uncancelled := rfl
  inTime := by
    rintro moment ⟨⟩

namespace Reply

variable {α : Type}

theorem failed_ne_cancelled (failure : Failure) : (.failed failure : Reply α) ≠ .cancelled := by
  rintro ⟨⟩

theorem answered_ne_cancelled (value : α) : .answered value ≠ (.cancelled : Reply α) := by
  rintro ⟨⟩

end Reply

namespace Session

variable {Question α : Type}

def calm (session : Session Question α) : Session Question α :=
  ⟨session.clock.calm, fun n => (session.answer n).calm, session.calls⟩

/-! ## What a session has come to -/

/-- A session that another one may come to. -/
structure Extends (before after : Session Question α) : Prop where
  calls : before.calls <+: after.calls
  now : before.clock.now ≤ after.clock.now
  answer : after.answer = before.answer

namespace Extends

variable {s t u : Session Question α}

theorem refl (s : Session Question α) : Extends s s :=
  ⟨List.prefix_rfl, Nat.le_refl _, rfl⟩

theorem trans (st : Extends s t) (tu : Extends t u) : Extends s u :=
  ⟨st.calls.trans tu.calls, Nat.le_trans st.now tu.now, tu.answer.trans st.answer⟩

theorem ofClock {clock : Clock} (later : s.clock.now ≤ clock.now) :
    Extends s { s with clock } :=
  ⟨List.prefix_rfl, later, rfl⟩

end Extends

/-- Nothing is cancelled, no call made so far cancels, and none was made later than now. -/
structure Live (session : Session Question α) : Prop where
  clock : session.clock.Live
  quiet : ∀ n < session.calls.length, (session.answer n).cancels = false
  timely : ∀ call ∈ session.calls, call.time ≤ session.clock.now

theorem Live.calm {session : Session Question α} (live : session.Live) : session.calm.Live where
  clock := session.clock.live_calm
  quiet := fun _ _ => rfl
  timely := live.timely

theorem Live.opening {clock : Clock} (live : clock.Live) (answer : Nat → Answer α) :
    Live (⟨clock, answer, []⟩ : Session Question α) where
  clock := live
  quiet := by
    intro n before
    exact absurd before (Nat.not_lt_zero n)
  timely := by
    intro call member
    exact absurd member List.not_mem_nil

/-- A session that a live one came to without a cancellation. -/
structure Continues (before after : Session Question α) : Prop extends Extends before after where
  live : after.Live
  cancelAt : after.clock.cancelAt = before.clock.cancelAt

/-- A session that was cancelled, where the calm one came to `base`: only the last of its calls may
have cancelled, and it did unless the time of the cancellation was passed by the calm one. -/
structure Stopped (before after base : Session Question α) : Prop extends Extends before after where
  cancelled : after.clock.cancelled = true
  common : after.calls <+: base.calls
  timely : ∀ call ∈ after.calls, call.time ≤ after.clock.now
  inTime : ∀ moment ∈ before.clock.cancelAt, after.clock.now ≤ moment
  quiet : ∀ n, n + 1 < after.calls.length → (before.answer n).cancels = false
  cause :
    (∃ moment ∈ before.clock.cancelAt, moment < base.clock.now) ∨
      ∃ n, after.calls.length = n + 1 ∧ (before.answer n).cancels = true

section Steps

variable {s t u base : Session Question α}

theorem Continues.refl (live : s.Live) : Continues s s where
  toExtends := Extends.refl s
  live := live
  cancelAt := rfl

theorem Continues.trans (st : Continues s t) (tu : Continues t u) : Continues s u where
  toExtends := st.toExtends.trans tu.toExtends
  live := tu.live
  cancelAt := tu.cancelAt.trans st.cancelAt

/-- The answers are still those of the beginning. -/
theorem Continues.live_answer (st : Continues s t) : Live ⟨t.clock, s.answer, t.calls⟩ := by
  rw [← st.answer]
  exact st.live

/-- What a session continued to may be stopped in its place. -/
theorem Continues.stopped (st : Continues s t) (tu : Stopped t u base) : Stopped s u base where
  toExtends := st.toExtends.trans tu.toExtends
  cancelled := tu.cancelled
  common := tu.common
  timely := tu.timely
  inTime := by
    rw [← st.cancelAt]
    exact tu.inTime
  quiet := by
    rw [← st.answer]
    exact tu.quiet
  cause := by
    rw [← st.cancelAt, ← st.answer]
    exact tu.cause

/-- The calm session may go on after the other was stopped. -/
theorem Stopped.extend {later : Session Question α} (stopped : Stopped s t base)
    (further : Extends base later) : Stopped s t later where
  toExtends := stopped.toExtends
  cancelled := stopped.cancelled
  common := stopped.common.trans further.calls
  timely := stopped.timely
  inTime := stopped.inTime
  quiet := stopped.quiet
  cause := by
    refine stopped.cause.imp_left ?_
    rintro ⟨moment, set, passed⟩
    exact ⟨moment, set, Nat.lt_of_lt_of_le passed further.now⟩

/-- In a live session every call was made before the time of the cancellation. -/
theorem Live.timed (live : s.Live) {moment : Nat} (set : moment ∈ s.clock.cancelAt) :
    ∀ call ∈ s.calls, call.time ≤ moment := by
  intro call made
  exact Nat.le_trans (live.timely call made) (live.clock.inTime moment set)

theorem Continues.ofClock {Other β : Type} {o p : Session Other β} (live : s.Live)
    (other : Continues o p) (clock : s.clock = o.clock) :
    Continues s { s with clock := p.clock } where
  toExtends := .ofClock (clock ▸ other.now)
  live :=
    { clock := other.live.clock
      quiet := live.quiet
      timely := fun call made => Nat.le_trans (live.timely call made) (clock ▸ other.now) }
  cancelAt := clock ▸ other.cancelAt

/-- No call of a stopped session was made after the time of the cancellation. -/
theorem Stopped.timed (stopped : Stopped s t base) {moment : Nat}
    (set : moment ∈ s.clock.cancelAt) : ∀ call ∈ t.calls, call.time ≤ moment := by
  intro call made
  exact Nat.le_trans (stopped.timely call made) (stopped.inTime moment set)

/-- A call that cancels is the last one. -/
theorem Stopped.last (stopped : Stopped s t base) {n : Nat} (made : n < t.calls.length)
    (cancels : (s.answer n).cancels = true) : t.calls.length = n + 1 := by
  rcases Nat.lt_or_eq_of_le (Nat.succ_le_of_lt made) with more | last
  · rw [stopped.quiet n more] at cancels
    exact absurd cancels Bool.false_ne_true
  · exact last.symm

theorem not_stopped_calm : ¬ Stopped s.calm t base := by
  intro stopped
  rcases stopped.cause with ⟨moment, ⟨⟩, -⟩ | ⟨n, -, ⟨⟩⟩

end Steps

/-! ## Following the calm session -/

/-- What came of a live session, beside what came of the calm one: the same if it was not given up;
if it was, the session was stopped. -/
structure Follows {β : Type} (gaveUp : β → Prop) (before : Session Question α)
    (actual base : β × Session Question α) : Prop where
  continued : ¬ gaveUp actual.1 →
    base = (actual.1, actual.2.calm) ∧ Continues before actual.2
  stopped : gaveUp actual.1 → Stopped before actual.2 base.2

namespace Follows

variable {β γ : Type} {gaveUp : β → Prop} {gaveUp' : γ → Prop} {s t : Session Question α}

/-- Something is given without a further step. -/
theorem done {b : β} (noted : ¬ gaveUp b) (step : Continues s t) :
    Follows gaveUp s (b, t) (b, t.calm) where
  continued := fun _ => ⟨rfl, step⟩
  stopped := fun cancelled => absurd cancelled noted

theorem halted {b : β} {base : β × Session Question α} (noted : gaveUp b)
    (stopped : Stopped s t base.2) : Follows gaveUp s (b, t) base where
  continued := fun going => absurd noted going
  stopped := fun _ => stopped

/-- What follows the calm session from where a session continued to follows it from its
beginning. -/
theorem after {actual base : β × Session Question α} (step : Continues s t)
    (rest : Follows gaveUp t actual base) : Follows gaveUp s actual base where
  continued := fun going =>
    ⟨(rest.continued going).1, step.trans (rest.continued going).2⟩
  stopped := fun cancelled => step.stopped (rest.stopped cancelled)

/-- The result may be read in another way. -/
theorem map (gaveUp' : γ → Prop) (read : β → γ) (cancelled : ∀ b, gaveUp' (read b) ↔ gaveUp b)
    {actual base : β × Session Question α} (follows : Follows gaveUp s actual base) :
    Follows gaveUp' s (read actual.1, actual.2) (read base.1, base.2) where
  continued := by
    intro going
    have ⟨same, step⟩ := follows.continued (mt (cancelled _).2 going)
    rw [same]
    exact ⟨rfl, step⟩
  stopped := fun gone => follows.stopped ((cancelled _).1 gone)

/-- What is done next follows the calm session if each part does. Once the session was stopped,
nothing more may be done with it. -/
theorem bind {one calmOne : β × Session Question α} (first : Follows gaveUp s one calmOne)
    (next calmNext : β → Session Question α → γ × Session Question α)
    (stops : ∀ b t, gaveUp b → gaveUp' (next b t).1 ∧ (next b t).2 = t)
    (further : ∀ b t, Extends t (calmNext b t).2)
    (rest : ∀ b t, ¬ gaveUp b → t.Live → Follows gaveUp' t (next b t) (calmNext b t.calm)) :
    Follows gaveUp' s (next one.1 one.2) (calmNext calmOne.1 calmOne.2) := by
  by_cases gone : gaveUp one.1
  · obtain ⟨noted, halt⟩ := stops one.1 one.2 gone
    have stopped := (first.stopped gone).extend (further calmOne.1 calmOne.2)
    constructor
    · exact fun going => absurd noted going
    · intro _
      rw [halt]
      exact stopped
  · obtain ⟨same, step⟩ := first.continued gone
    rw [same]
    exact (rest one.1 one.2 gone step.live).after step

theorem not_gaveUp {actual base : β × Session Question α}
    (follows : Follows gaveUp s.calm actual base) : ¬ gaveUp actual.1 :=
  fun cancelled => not_stopped_calm (follows.stopped cancelled)

end Follows

/-! ## Waiting -/

def waitUntil (session : Session Question α) (time : Nat) : Bool × Session Question α :=
  ((session.clock.waitUntil time).1, { session with clock := (session.clock.waitUntil time).2 })

section Primitives

variable {s t : Session Question α}

theorem extends_waitUntil (s : Session Question α) (time : Nat) :
    Extends s (s.waitUntil time).2 :=
  .ofClock (s.clock.now_le_waitUntil time)

theorem extends_sleep (s : Session Question α) (duration : Nat) :
    Extends s (s.sleep duration).2 :=
  s.extends_waitUntil (s.clock.afterWait duration)

theorem follows_waitUntil (live : s.Live) (time : Nat) :
    Follows (· = false) s (s.waitUntil time) (s.calm.waitUntil time) := by
  have calmly : s.calm.waitUntil time =
      (true, { s.calm with clock := ⟨max s.clock.now time, false, none⟩ }) := by
    rw [waitUntil, Clock.waitUntil_of_uncancelled rfl rfl]
    rfl
  rw [calmly]
  cases ahead : s.clock.cancellationBefore time with
  | none =>
    have waited : s.waitUntil time =
        (true, { s with clock := { s.clock with now := max s.clock.now time } }) := by
      simp [waitUntil, Clock.waitUntil, live.clock.uncancelled, ahead]
    have inTime : ∀ moment ∈ s.clock.cancelAt, max s.clock.now time ≤ moment := by
      intro moment set
      have notBefore : ¬ moment < time := by
        simpa [Clock.cancellationBefore, Option.mem_def.1 set] using ahead
      exact Nat.max_le.2 ⟨live.clock.inTime moment set, Nat.le_of_not_lt notBefore⟩
    rw [waited]
    have step : Continues s { s with clock := { s.clock with now := max s.clock.now time } } :=
      { toExtends := .ofClock (Nat.le_max_left ..)
        live :=
          { clock := ⟨live.clock.uncancelled, inTime⟩
            quiet := live.quiet
            timely := fun call made =>
              Nat.le_trans (live.timely call made) (Nat.le_max_left ..) }
        cancelAt := rfl }
    exact .done Bool.noConfusion step
  | some moment =>
    obtain ⟨set, before⟩ : s.clock.cancelAt = some moment ∧ moment < time := by
      simpa [Clock.cancellationBefore, Option.filter_eq_some_iff] using ahead
    have due : s.clock.now ≤ moment := live.clock.inTime moment set
    have waited : s.waitUntil time =
        (false, { s with clock := { s.clock with now := moment, cancelled := true } }) := by
      simp [waitUntil, Clock.waitUntil, live.clock.uncancelled, ahead, Nat.max_eq_right due]
    rw [waited]
    refine .halted rfl ?_
    exact
      { toExtends := .ofClock due
        cancelled := rfl
        common := List.prefix_rfl
        timely := fun call made => Nat.le_trans (live.timely call made) due
        inTime := by
          intro other also
          rw [Option.mem_def, set, Option.some.injEq] at also
          exact Nat.le_of_eq also
        quiet := fun n before => live.quiet n (Nat.lt_of_succ_lt before)
        cause := .inl ⟨moment, set, Nat.lt_of_lt_of_le before (Nat.le_max_right ..)⟩ }

theorem follows_sleep (live : s.Live) (duration : Nat) :
    Follows (· = false) s (s.sleep duration) (s.calm.sleep duration) :=
  follows_waitUntil live (s.clock.afterWait duration)

/-! ## Asking -/

/-- The session when a call has been made that is not answered yet. -/
def calling (s : Session Question α) (question : Question) : Session Question α :=
  { s with calls := s.calls ++ [⟨s.clock.now, question⟩] }

theorem extends_calling (s : Session Question α) (question : Question) :
    Extends s (s.calling question) :=
  ⟨List.prefix_append .., Nat.le_refl _, rfl⟩

def heard (result : Except Failure α) (reached : Bool) : Reply α :=
  if reached then
    match result with
    | .ok value => .answered value
    | .error failure => .failed failure
  else .cancelled

theorem heard_eq_cancelled (result : Except Failure α) (reached : Bool) :
    heard result reached = .cancelled ↔ reached = false := by
  cases reached
  · exact iff_of_true rfl rfl
  · refine iff_of_false ?_ Bool.noConfusion
    rcases result with failure | value
    · rintro ⟨⟩
    · rintro ⟨⟩

theorem ask_of_quiet (uncancelled : s.clock.cancelled = false)
    (quiet : (s.answer s.calls.length).cancels = false) (question : Question) :
    s.ask question =
      (heard (s.answer s.calls.length).result
          ((s.calling question).sleep (s.answer s.calls.length).delay).1,
        ((s.calling question).sleep (s.answer s.calls.length).delay).2) := by
  simp only [ask, uncancelled, quiet, Bool.false_eq_true, if_false]
  rfl

/-- An answer that cancels is not waited for. -/
theorem ask_of_cancels (uncancelled : s.clock.cancelled = false)
    (cancels : (s.answer s.calls.length).cancels = true) (question : Question) :
    s.ask question = (.cancelled, { s.calling question with clock := s.clock.cancel }) := by
  simp only [ask, uncancelled, cancels, Bool.false_eq_true, if_false, if_true]
  rfl

theorem extends_ask (s : Session Question α) (question : Question) :
    Extends s (s.ask question).2 := by
  rcases Bool.eq_false_or_eq_true s.clock.cancelled with cancelled | uncancelled
  · rw [ask_of_cancelled cancelled]
    exact .refl s
  · rcases Bool.eq_false_or_eq_true (s.answer s.calls.length).cancels with cancels | quiet
    · rw [ask_of_cancels uncancelled cancels]
      exact ⟨List.prefix_append .., Nat.le_refl _, rfl⟩
    · rw [ask_of_quiet uncancelled quiet]
      exact (s.extends_calling question).trans ((s.calling question).extends_sleep _)

/-- A call either is answered as if nobody cancelled, or cancels, or is under way when the run is
cancelled. -/
theorem follows_ask (live : s.Live) (question : Question) :
    Follows (· = .cancelled) s (s.ask question) (s.calm.ask question) := by
  have calmly := ask_of_quiet (s := s.calm) rfl rfl question
  have timely : ∀ call ∈ (s.calling question).calls, call.time ≤ s.clock.now := by
    intro call made
    rcases List.mem_append.1 made with made | made
    · exact live.timely call made
    · obtain rfl := List.mem_singleton.1 made
      exact Nat.le_refl _
  rcases Bool.eq_false_or_eq_true (s.answer s.calls.length).cancels with cancels | quiet
  · rw [ask_of_cancels live.clock.uncancelled cancels, calmly]
    refine .halted rfl ?_
    exact
      { toExtends := ⟨List.prefix_append .., Nat.le_refl _, rfl⟩
        cancelled := rfl
        common := List.prefix_rfl
        timely
        inTime := live.clock.inTime
        quiet := by
          intro n before
          have made : n < s.calls.length := by
            simpa [calling] using before
          exact live.quiet n made
        cause := .inr ⟨s.calls.length, by simp [calling], cancels⟩ }
  · have begun : Continues s (s.calling question) :=
      { toExtends := s.extends_calling question
        live :=
          { clock := live.clock
            timely
            quiet := by
              intro n made
              rw [calling, List.length_append, List.length_singleton] at made
              rcases Nat.lt_succ_iff_lt_or_eq.1 made with before | rfl
              · exact live.quiet n before
              · exact quiet }
        cancelAt := rfl }
    rw [ask_of_quiet live.clock.uncancelled quiet, calmly]
    exact ((follows_sleep begun.live (s.answer s.calls.length).delay).map
      (· = .cancelled) (heard (s.answer s.calls.length).result) (heard_eq_cancelled _)).after begun

/-! ## The steps of a stage -/

theorem Extends.ofSleep {duration : Nat} {reached : Bool} (slept : s.sleep duration = (reached, t)) :
    Extends s t := by
  have step := s.extends_sleep duration
  rwa [slept] at step

/-- A call with a reply has it when nobody cancels, too. -/
theorem Live.heard {question : Question} {reply : Reply α} (live : s.Live)
    (asked : s.ask question = (reply, t)) (going : reply ≠ .cancelled) :
    s.calm.ask question = (reply, t.calm) ∧ Continues s t := by
  have step := follows_ask live question
  rw [asked] at step
  exact step.continued going

theorem Live.stoppedAsking {question : Question} (live : s.Live)
    (asked : s.ask question = (.cancelled, t)) : Stopped s t (s.calm.ask question).2 := by
  have step := follows_ask live question
  rw [asked] at step
  exact step.stopped rfl

/-- A wait that ends in time does so when nobody cancels, too. -/
theorem Live.slept {duration : Nat} (live : s.Live) (slept : s.sleep duration = (true, t)) :
    s.calm.sleep duration = (true, t.calm) ∧ Continues s t := by
  have step := follows_sleep live duration
  rw [slept] at step
  exact step.continued Bool.noConfusion

theorem Live.stoppedSleeping {duration : Nat} (live : s.Live)
    (slept : s.sleep duration = (false, t)) : Stopped s t (s.calm.sleep duration).2 := by
  have step := follows_sleep live duration
  rw [slept] at step
  exact step.stopped rfl

theorem Live.sleep_calm (live : s.Live) (duration : Nat) :
    s.calm.sleep duration = (true, (s.calm.sleep duration).2) := by
  have going := (follows_sleep live.calm duration).not_gaveUp
  exact Prod.ext (Bool.not_eq_false _ ▸ going) rfl

end Primitives

end Session

end PriorArt
