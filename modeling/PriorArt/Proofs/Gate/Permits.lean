import Mathlib.Algebra.Order.Floor.Div
import PriorArt.Run.Gate

/-!
# The permits of a gate

Permits are asked for, time passes, and the run is cancelled, in any order (`steps`).

1. `stepOf`: what one action does to the gate, and when it is granted a permit.
2. `Due`, `Spaced`: no permit is granted too early, however late those before it were taken
   (`allows_granted`). The slack is not added up: it is lost once between a permit and the time at
   which the next one is due, and the permits are due a period apart from then on.
3. `State.IsPrompt`: while nobody sleeps, the gate is ahead of the clock, and each permit is granted
   in the first whole millisecond in which it is due.
4. `stepOf_of_cancelled`, `pairwise_cancelled`: a run that is cancelled stays so, and waits for
   nothing. `cause_of_cancelled`: it is cancelled by an action or at the time that is set, and so
   every permit is granted in a run that nobody cancels (`passed_of_uncancelled`).
5. `IsRegular`: all of that for a gate that was just opened (`isRegular_opening`).
-/

namespace PriorArt

namespace Gate

/-! ## Actions -/

inductive Action where
  | acquire
  /-- Sleeps, unless the run is cancelled. -/
  | sleep (duration : Nat)
  /-- Lets the time pass, cancelled or not. -/
  | pause (duration : Nat)
  | cancel
  deriving DecidableEq

/-- The actions that end early when the run is cancelled. -/
def Action.isWait : Action → Bool
  | .acquire | .sleep _ => true
  | .pause _ | .cancel => false

def Action.isSleep : Action → Bool
  | .sleep _ | .pause _ => true
  | .acquire | .cancel => false

/-- A gate, and the clock of the run that uses it. -/
structure State where
  gate : Gate
  clock : Clock
  deriving DecidableEq

/-- An action that took place, and whether it passed without a cancellation. -/
structure Step where
  action : Action
  before : State
  passed : Bool
  after : State
  deriving DecidableEq

def stepOf (before : State) : Action → Step
  | .acquire =>
    let (passed, gate, clock) := before.gate.acquire before.clock
    ⟨.acquire, before, passed, ⟨gate, clock⟩⟩
  | .sleep duration =>
    let (passed, clock) := before.clock.sleep duration
    ⟨.sleep duration, before, passed, { before with clock }⟩
  | .pause duration =>
    ⟨.pause duration, before, true, { before with clock := before.clock.pass duration }⟩
  | .cancel => ⟨.cancel, before, true, { before with clock := before.clock.cancel }⟩

def steps (start : State) : List Action → List Step
  | [] => []
  | action :: rest => stepOf start action :: steps (stepOf start action).after rest

/-- The time at which a step was granted a permit. -/
def Step.grant? (step : Step) : Option Nat :=
  match step.action, step.passed with
  | .acquire, true => some step.after.clock.now
  | _, _ => none

def granted (start : State) (actions : List Action) : List Nat :=
  (steps start actions).filterMap Step.grant?

section Step

variable {before start : State} {action : Action} {rest : List Action} {time : Nat}

/-- The gate waits for the permit and takes it, or the run is cancelled and the gate stays. -/
theorem acquire_cases {gate gate' : Gate} {clock after : Clock} {passed : Bool}
    (asked : gate.acquire clock = (passed, gate', after)) :
    passed = true ∧ after.cancelled = false ∧ after.now = max clock.now gate.dueMilli ∧
        gate' = gate.taken after.now ∨
      passed = false ∧ after.cancelled = true ∧ after.now ≤ max clock.now gate.dueMilli ∧
        gate' = gate := by
  unfold acquire at asked
  generalize waited : clock.waitUntil (max clock.now gate.dueMilli) = wait at asked
  obtain ⟨reached, later⟩ := wait
  obtain ⟨rfl, uncancelled, isNow⟩ | ⟨rfl, cancelled, inTime⟩ := Clock.waitUntil_cases waited
  · cases asked
    exact .inl ⟨rfl, uncancelled, by omega, rfl⟩
  · cases asked
    exact .inr ⟨rfl, cancelled, by omega, rfl⟩

/-- A gate waits as the clock does. -/
theorem acquire_eq (gate : Gate) (clock : Clock) :
    let wait := clock.waitUntil (max clock.now gate.dueMilli)
    gate.acquire clock =
      (wait.1, if wait.1 = true then gate.taken wait.2.now else gate, wait.2) := by
  unfold acquire
  dsimp only
  split
  · next waited => simp [waited]
  · next waited => simp [waited]

theorem taken_of_grant? (grant : (stepOf before action).grant? = some time) :
    action = .acquire ∧ time = max before.clock.now before.gate.dueMilli ∧
      (stepOf before action).after.clock.now = time ∧
      (stepOf before action).after.gate = before.gate.taken time := by
  unfold Step.grant? at grant
  cases action with
  | acquire =>
    dsimp only [stepOf] at grant ⊢
    generalize asked : before.gate.acquire before.clock = answer at grant ⊢
    obtain ⟨passed, gate, clock⟩ := answer
    obtain ⟨rfl, -, isNow, isTaken⟩ | ⟨rfl, -⟩ := acquire_cases asked
    · obtain rfl : clock.now = time := by simpa using grant
      exact ⟨rfl, isNow, rfl, isTaken⟩
    · simp at grant
  | _ => simp [stepOf] at grant

theorem gate_of_grant?_eq_none (grant : (stepOf before action).grant? = none) :
    (stepOf before action).after.gate = before.gate := by
  unfold Step.grant? at grant
  cases action with
  | acquire =>
    dsimp only [stepOf] at grant ⊢
    generalize asked : before.gate.acquire before.clock = answer at grant ⊢
    obtain ⟨passed, gate, clock⟩ := answer
    obtain ⟨rfl, -⟩ | ⟨-, -, -, unchanged⟩ := acquire_cases asked
    · simp at grant
    · exact unchanged
  | _ => rfl

theorem granted_cons_of_some (grant : (stepOf start action).grant? = some time) :
    granted start (action :: rest) = time :: granted (stepOf start action).after rest :=
  List.filterMap_cons_some grant

theorem granted_cons_of_none (grant : (stepOf start action).grant? = none) :
    granted start (action :: rest) = granted (stepOf start action).after rest :=
  List.filterMap_cons_none grant

end Step

/-! ## Spacing -/

/-- No permit is granted before it is due. -/
def Due (gate : Gate) (times : List Nat) : Prop :=
  ∀ k, ∀ time ∈ times[k]?, gate.due + k * gate.period ≤ time * nanosPerMilli

/-- Permits that are `n` places apart are granted `n` periods apart or more, but for five
milliseconds. The times are in milliseconds and the period is in nanoseconds. -/
def Spaced (period : Nat) (times : List Nat) : Prop :=
  ∀ i n, 1 ≤ n → ∀ earlier ∈ times[i]?, ∀ later ∈ times[i + n]?,
    earlier * 1000000 + n * period ≤ later * 1000000 + 5000000

section Times

variable {gate : Gate} {time : Nat} {times : List Nat}

theorem Due.cons (due : Due (gate.taken time) times) (first : gate.due ≤ time * nanosPerMilli) :
    Due gate (time :: times) := by
  intro k later isLater
  cases k with
  | zero =>
    obtain rfl : time = later := by simpa using isLater
    omega
  | succ k =>
    have inTime := due k later (by simpa using isLater)
    have next := gate.due_add_period_le_due_taken time
    rw [period_taken] at inTime
    rw [Nat.succ_mul]
    omega

theorem Spaced.cons (spaced : Spaced gate.period times) (due : Due (gate.taken time) times) :
    Spaced gate.period (time :: times) := by
  intro i n apart earlier isEarlier later isLater
  cases i with
  | zero =>
    obtain ⟨k, rfl⟩ : ∃ k, n = k + 1 := ⟨n - 1, by omega⟩
    obtain rfl : time = earlier := by simpa using isEarlier
    have inTime := due k later (by simpa using isLater)
    have next := gate.now_add_period_le_due_taken time
    rw [period_taken] at inTime
    rw [Nat.succ_mul]
    unfold nanosPerMilli at inTime next
    unfold slack at next
    omega
  | succ i =>
    rw [Nat.add_right_comm] at isLater
    exact spaced i n apart earlier (by simpa using isEarlier) later (by simpa using isLater)

end Times

/-- Times at which a gate may grant its permits, one after the other. -/
structure Allows (gate : Gate) (times : List Nat) : Prop where
  due : Due gate times
  spaced : Spaced gate.period times

theorem Allows.nil (gate : Gate) : Allows gate [] where
  due := by
    intro k time isTime
    simp at isTime
  spaced := by
    intro i n _ earlier isEarlier
    simp at isEarlier

theorem Allows.cons {gate : Gate} {time : Nat} {times : List Nat}
    (rest : Allows (gate.taken time) times) (first : gate.due ≤ time * nanosPerMilli) :
    Allows gate (time :: times) where
  due := rest.due.cons first
  spaced := by
    have spaced := rest.spaced
    rw [period_taken] at spaced
    exact spaced.cons rest.due

/-- Whatever happens between the permits, the gate allows them. -/
theorem allows_granted (start : State) (actions : List Action) :
    Allows start.gate (granted start actions) := by
  induction actions generalizing start with
  | nil => exact .nil start.gate
  | cons action rest ih =>
    have later := ih (stepOf start action).after
    cases grant : (stepOf start action).grant? with
    | none =>
      rw [granted_cons_of_none grant]
      rwa [gate_of_grant?_eq_none grant] at later
    | some time =>
      obtain ⟨-, isTime, -, isTaken⟩ := taken_of_grant? grant
      rw [granted_cons_of_some grant]
      rw [isTaken] at later
      refine later.cons ?_
      calc start.gate.due ≤ start.gate.dueMilli * nanosPerMilli := start.gate.due_le_dueMilli
        _ ≤ time * nanosPerMilli := Nat.mul_le_mul_right _ (isTime ▸ Nat.le_max_right ..)

/-! ## No drift -/

/-- The clock has not passed the millisecond in which the next permit is due. -/
def State.IsPrompt (state : State) : Prop :=
  state.clock.now ≤ state.gate.dueMilli

theorem dueMilli_eq_ceilDiv (gate : Gate) : gate.dueMilli = gate.due ⌈/⌉ nanosPerMilli := by
  rw [Nat.ceilDiv_eq_add_pred_div, dueMilli, Nat.add_sub_assoc (by decide)]

/-- A permit that is taken in the millisecond in which it is due is not late. -/
theorem taken_dueMilli (gate : Gate) :
    gate.taken gate.dueMilli = { gate with due := gate.due + gate.period } := by
  refine if_neg ?_
  simp only [dueMilli, nanosPerMilli, slack]
  omega

theorem State.IsPrompt.stepOf {before : State} (prompt : before.IsPrompt) {action : Action}
    (awake : action.isSleep = false) : (stepOf before action).after.IsPrompt := by
  unfold State.IsPrompt at prompt ⊢
  cases action with
  | acquire =>
    dsimp only [Gate.stepOf]
    generalize asked : before.gate.acquire before.clock = answer
    obtain ⟨passed, gate, clock⟩ := answer
    obtain ⟨-, -, isNow, isTaken⟩ | ⟨-, -, inTime, unchanged⟩ := acquire_cases asked
    · rw [Nat.max_eq_right prompt] at isNow
      rw [isNow, taken_dueMilli] at isTaken
      rw [isNow, isTaken]
      exact Nat.div_le_div_right (by dsimp only; omega)
    · rw [Nat.max_eq_right prompt] at inTime
      rwa [unchanged]
  | cancel => exact prompt
  | _ => cases awake

theorem State.IsPrompt.granted {start : State} (prompt : start.IsPrompt) {actions : List Action}
    (awake : ∀ action ∈ actions, action.isSleep = false) :
    ∀ k, ∀ time ∈ (granted start actions)[k]?,
      time = (start.gate.due + k * start.gate.period) ⌈/⌉ nanosPerMilli := by
  induction actions generalizing start with
  | nil =>
    intro k time isTime
    simp [Gate.granted, steps] at isTime
  | cons action rest ih =>
    intro k time isTime
    obtain ⟨first, others⟩ := List.forall_mem_cons.1 awake
    have later := ih (prompt.stepOf first) others
    cases grant : (Gate.stepOf start action).grant? with
    | none =>
      rw [granted_cons_of_none grant] at isTime
      rw [gate_of_grant?_eq_none grant] at later
      exact later k time isTime
    | some atOnce =>
      obtain ⟨-, isFirst, -, isTaken⟩ := taken_of_grant? grant
      rw [Nat.max_eq_right prompt] at isFirst
      rw [granted_cons_of_some grant] at isTime
      cases k with
      | zero =>
        obtain rfl : atOnce = time := by simpa using isTime
        rw [isFirst, dueMilli_eq_ceilDiv, Nat.zero_mul, Nat.add_zero]
      | succ k =>
        have isLater := later k time (by simpa using isTime)
        rw [isTaken, isFirst, taken_dueMilli] at isLater
        rw [isLater, Nat.succ_mul, Nat.add_assoc, Nat.add_comm start.gate.period]

/-! ## Cancellation -/

section Step

variable {before start : State} {action : Action}

@[simp] theorem action_stepOf (before : State) (action : Action) :
    (stepOf before action).action = action := by
  cases action <;> rfl

@[simp] theorem before_stepOf (before : State) (action : Action) :
    (stepOf before action).before = before := by
  cases action <;> rfl

theorem stepOf_of_cancelled (cancelled : before.clock.cancelled = true)
    (wait : action.isWait = true) : stepOf before action = ⟨action, before, false, before⟩ := by
  cases action with
  | acquire => simp [stepOf, acquire, Clock.waitUntil_of_cancelled cancelled]
  | sleep duration => simp [stepOf, Clock.sleep, Clock.waitUntil_of_cancelled cancelled]
  | _ => cases wait

theorem cancelled_stepOf (cancelled : before.clock.cancelled = true) :
    (stepOf before action).after.clock.cancelled = true := by
  cases action with
  | pause duration => simp [stepOf, Clock.pass, cancelled]
  | cancel => rfl
  | _ => rwa [stepOf_of_cancelled cancelled rfl]

theorem passed_stepOf (wait : action.isWait = true) :
    (stepOf before action).passed = false ↔
      (stepOf before action).after.clock.cancelled = true := by
  cases action with
  | acquire =>
    dsimp only [stepOf]
    rw [acquire_eq]
    exact Clock.waitUntil_eq_false_iff ..
  | sleep duration => exact Clock.waitUntil_eq_false_iff ..
  | _ => cases wait

/-- The run is cancelled once the time has passed that is set for that. -/
structure State.Heeds (moment : Nat) (state : State) : Prop where
  set : state.clock.cancelAt = some moment
  cancelled : moment < state.clock.now → state.clock.cancelled = true

theorem State.Heeds.waitUntil {moment : Nat} (heeds : before.Heeds moment) (gate : Gate)
    (time : Nat) : State.Heeds moment ⟨gate, (before.clock.waitUntil time).2⟩ := by
  have set := heeds.set
  unfold Clock.waitUntil
  split
  · exact ⟨set, heeds.cancelled⟩
  · next uncancelled =>
    split
    · exact ⟨set, fun _ => rfl⟩
    · next unbroken =>
      refine ⟨set, fun passed => absurd (heeds.cancelled ?_) uncancelled⟩
      have later : time ≤ moment := by
        simpa [Clock.cancellationBefore, set, Option.filter_some] using unbroken
      dsimp only at passed
      omega

theorem State.Heeds.stepOf {moment : Nat} (heeds : before.Heeds moment) (action : Action) :
    (stepOf before action).after.Heeds moment := by
  cases action with
  | acquire =>
    dsimp only [Gate.stepOf]
    rw [acquire_eq]
    exact heeds.waitUntil _ _
  | sleep duration => exact heeds.waitUntil before.gate (before.clock.afterWait duration)
  | pause duration =>
    refine ⟨heeds.set, fun passed => ?_⟩
    simpa [Gate.stepOf, Clock.pass, Clock.cancellationBefore, heeds.set, Option.filter_some]
      using .inr passed
  | cancel => exact ⟨heeds.set, fun _ => rfl⟩

theorem cancelAt_stepOf (before : State) (action : Action) :
    (stepOf before action).after.clock.cancelAt = before.clock.cancelAt := by
  cases action with
  | acquire =>
    dsimp only [stepOf]
    rw [acquire_eq]
    exact Clock.cancelAt_waitUntil ..
  | sleep duration => exact Clock.cancelAt_waitUntil ..
  | _ => rfl

/-- A step cancels the run only by its action or at the time that is set for that. -/
theorem cause_of_cancelled (cancelled : (stepOf before action).after.clock.cancelled = true) :
    before.clock.cancelled = true ∨ action = .cancel ∨
      ∃ moment ∈ before.clock.cancelAt, moment ≤ (stepOf before action).after.clock.now := by
  cases action with
  | acquire =>
    dsimp only [stepOf] at cancelled ⊢
    rw [acquire_eq] at cancelled ⊢
    exact (Clock.set_of_cancelled_waitUntil cancelled).imp_right .inr
  | sleep duration => exact (Clock.set_of_cancelled_waitUntil cancelled).imp_right .inr
  | pause duration =>
    rcases Bool.or_eq_true_iff.1 cancelled with already | set
    · exact .inl already
    · obtain ⟨moment, found⟩ := Option.isSome_iff_exists.1 set
      obtain ⟨set, passed⟩ := Option.filter_eq_some_iff.1 found
      exact .inr (.inr ⟨moment, set, Nat.le_of_lt (of_decide_eq_true passed)⟩)
  | cancel => exact .inr (.inl rfl)

/-- What each action preserves holds before and after each step. -/
theorem of_mem_steps (invariant : State → Prop) {actions : List Action}
    (kept : ∀ before, ∀ action ∈ actions,
      invariant before → invariant (stepOf before action).after)
    (first : invariant start) :
    ∀ step ∈ steps start actions, step.action ∈ actions ∧
      step = stepOf step.before step.action ∧ invariant step.before ∧ invariant step.after := by
  induction actions generalizing start with
  | nil => simp [steps]
  | cons action rest ih =>
    have next := kept start action (List.mem_cons_self ..) first
    refine List.forall_mem_cons.2 ⟨⟨?_, ?_, ?_, next⟩, fun step member => ?_⟩
    · rw [action_stepOf]
      exact List.mem_cons_self ..
    · rw [before_stepOf, action_stepOf]
    · rwa [before_stepOf]
    · have others : ∀ before, ∀ action ∈ rest, _ := fun before action member =>
        kept before action (List.mem_cons_of_mem _ member)
      exact (ih others next step member).imp_left (List.mem_cons_of_mem _)

theorem cancelled_steps (cancelled : start.clock.cancelled = true) {actions : List Action} :
    ∀ step ∈ steps start actions, step.before.clock.cancelled = true := fun step member =>
  (of_mem_steps (·.clock.cancelled = true) (fun _ _ _ cancelled => cancelled_stepOf cancelled)
    cancelled step member).2.2.1

theorem passed_of_uncancelled (uncancelled : start.clock.cancelled = false)
    (never : start.clock.cancelAt = none) {actions : List Action} (going : .cancel ∉ actions) :
    ∀ step ∈ steps start actions, step.after.clock.cancelled = false := fun step member =>
  (of_mem_steps (fun state => state.clock.cancelled = false ∧ state.clock.cancelAt = none)
    (fun before action given ⟨uncancelled, never⟩ => by
      refine ⟨?_, (cancelAt_stepOf before action).trans never⟩
      rw [Bool.eq_false_iff]
      intro cancelled
      rcases cause_of_cancelled cancelled with already | rfl | ⟨moment, set, -⟩
      · simp [uncancelled] at already
      · exact going given
      · simp [never] at set)
    ⟨uncancelled, never⟩ step member).2.2.2.1

theorem pairwise_cancelled (start : State) (actions : List Action) :
    (steps start actions).Pairwise fun earlier later =>
      earlier.after.clock.cancelled = true → later.before.clock.cancelled = true := by
  induction actions generalizing start with
  | nil => exact .nil
  | cons action rest ih =>
    refine List.pairwise_cons.2 ⟨?_, ih _⟩
    intro later member cancelled
    exact cancelled_steps cancelled later member

end Step

/-! ## A gate that was just opened -/

theorem isPrompt_opening (perMinute : Nat) (clock : Clock) :
    State.IsPrompt ⟨opening perMinute clock.now, clock⟩ := by
  simp only [State.IsPrompt, opening, dueMilli, nanosPerMilli]
  omega

/-- Whole milliseconds are not rounded. -/
theorem ceilDiv_add_millis (now nanos : Nat) :
    (now * nanosPerMilli + nanos) ⌈/⌉ nanosPerMilli = now + nanos ⌈/⌉ nanosPerMilli := by
  simp only [Nat.ceilDiv_eq_add_pred_div, nanosPerMilli]
  omega

/-- The permits of a gate that is opened for a number of them a minute, and what becomes of the
run. -/
structure IsRegular (perMinute : Nat) (start : State) (actions : List Action) : Prop where
  /-- A minute has as many periods as it may have permits, and one at least. -/
  period : start.gate.period = 60000000000 / max perMinute 1
  positive : 0 < start.gate.period
  spaced : Spaced start.gate.period (granted start actions)
  /-- While nobody sleeps the permits do not drift. -/
  punctual : (∀ action ∈ actions, action.isSleep = false) →
    ∀ k, ∀ time ∈ (granted start actions)[k]?,
      time = start.clock.now + (k * start.gate.period) ⌈/⌉ nanosPerMilli
  /-- A permit or a sleep is given up only if the run is cancelled. -/
  passed : ∀ step ∈ steps start actions, step.action.isWait = true →
    (step.passed = false ↔ step.after.clock.cancelled = true)
  /-- Every permit is granted in a run that nobody cancels. -/
  grants : start.clock.cancelled = false → start.clock.cancelAt = none → .cancel ∉ actions →
    ∀ step ∈ steps start actions, step.after.clock.cancelled = false ∧
      (step.action = .acquire → step.grant? = some step.after.clock.now)
  cancels : ∀ step ∈ steps start actions, step.action = .cancel →
    step.after.clock.cancelled = true
  /-- The run is cancelled at a time that was set for that. -/
  timed : ∀ moment ∈ start.clock.cancelAt, start.clock.now ≤ moment →
    ∀ step ∈ steps start actions, moment < step.after.clock.now →
      step.after.clock.cancelled = true
  /-- Nothing else cancels it. -/
  cause : ∀ step ∈ steps start actions, step.after.clock.cancelled = true →
    step.before.clock.cancelled = true ∨ step.action = .cancel ∨
      ∃ moment ∈ start.clock.cancelAt, moment ≤ step.after.clock.now
  stays : (steps start actions).Pairwise fun earlier later =>
    earlier.after.clock.cancelled = true → later.before.clock.cancelled = true
  /-- A cancelled run waits for nothing, and its gate grants no permit. -/
  refused : ∀ step ∈ steps start actions, step.before.clock.cancelled = true →
    step.action.isWait = true → step.passed = false ∧ step.grant? = none ∧ step.after = step.before

/-- **The permits of a gate.** A gate keeps its rate whatever the run does between the permits, and
grants none once the run is cancelled. -/
theorem isRegular_opening (perMinute : UInt32) (clock : Clock) (actions : List Action) :
    IsRegular perMinute.toNat ⟨opening perMinute.toNat clock.now, clock⟩ actions := by
  have fits : perMinute.toNat ≤ nanosPerMinute := by
    have := perMinute.toNat_lt
    unfold nanosPerMinute
    omega
  have isStep {start : State} : ∀ step ∈ steps start actions,
      step = stepOf step.before step.action := fun step member =>
    (of_mem_steps (fun _ => True) (fun _ _ _ _ => trivial) trivial step member).2.1
  have passes {start : State} : ∀ step ∈ steps start actions, step.action.isWait = true →
      (step.passed = false ↔ step.after.clock.cancelled = true) := by
    intro step member wait
    rw [isStep step member]
    exact passed_stepOf wait
  exact
    { period := rfl
      positive := periodFor_pos fits
      spaced := (allows_granted _ actions).spaced
      punctual := by
        intro awake k time isTime
        rw [(isPrompt_opening perMinute.toNat clock).granted awake k time isTime]
        exact ceilDiv_add_millis ..
      passed := passes
      grants := by
        intro uncancelled never going step member
        have still := passed_of_uncancelled uncancelled never going step member
        refine ⟨still, fun acquires => ?_⟩
        have passed : step.passed ≠ false := fun givenUp => by
          simp [(passes step member (by rw [acquires]; rfl)).1 givenUp] at still
        simp [Step.grant?, acquires, passed]
      cancels := by
        intro step member cancel
        rw [isStep step member, cancel]
        rfl
      timed := by
        intro moment set ahead step member
        have heeds : State.Heeds moment ⟨opening perMinute.toNat clock.now, clock⟩ :=
          ⟨set, fun passed => absurd ahead (Nat.not_le_of_lt passed)⟩
        exact (of_mem_steps (State.Heeds moment) (fun _ action _ heeds => heeds.stepOf action) heeds
          step member).2.2.2.cancelled
      cause := by
        intro step member cancelled
        obtain ⟨-, isStep, set, -⟩ := of_mem_steps (·.clock.cancelAt = clock.cancelAt)
          (fun before action _ set => (cancelAt_stepOf before action).trans set) rfl step member
        rw [isStep] at cancelled ⊢
        rw [before_stepOf, action_stepOf, ← set]
        exact cause_of_cancelled cancelled
      stays := pairwise_cancelled _ actions
      refused := by
        intro step member cancelled wait
        rw [isStep step member, stepOf_of_cancelled cancelled wait]
        refine ⟨rfl, ?_, rfl⟩
        unfold Step.grant?
        cases step.action with
        | acquire => rfl
        | _ => rfl }

def lateActions : List Action :=
  [.acquire, .pause 1337, .acquire, .acquire, .pause 3000, .acquire, .acquire, .cancel, .acquire]

/-- The second permit is taken late, but within the slack; the fourth is taken late beyond it. The
last one is not granted. -/
theorem isRegular_opening_late :
    granted ⟨opening 45 0, .start⟩ lateActions = [0, 1337, 2667, 5667, 7001] ∧
      IsRegular 45 ⟨opening 45 0, .start⟩ lateActions :=
  ⟨by decide, isRegular_opening 45 .start lateActions⟩

end Gate

end PriorArt
