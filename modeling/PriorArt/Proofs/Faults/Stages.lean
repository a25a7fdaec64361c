import PriorArt.Proofs.Cancellation.Stages
import PriorArt.Proofs.Faults.Session

/-!
# A stage of a run with inserted faults

A stage that asks once more after every fault comes to the same result, as long as its attempts
suffice. Only the numbers of attempts differ.

1. `Metrics.uncounted`: what faults leave as it is. `Faults.Transient`: the faults that a stage
   passes over.
2. `Stage.attempt_past`: after the faults before its next call a stage is where it would be without
   them, but for the number of the attempt.
3. `Stage.agree_run`: the strategy and the narrative. An attempt that is the last one with faults is
   the last one without them, since no more attempts are left with faults than without.
-/

namespace PriorArt

open Session

/-! ## What faults leave as it is -/

def Metrics.uncounted (metrics : Metrics) : Metrics :=
  ⟨0, metrics.contentRetries, 0⟩

def StageRun.uncounted {α : Type} (run : StageRun α) : StageRun α :=
  { run with metrics := run.metrics.uncounted }

theorem Metrics.uncounted_repeatedForContent {metrics metrics' : Metrics}
    (alike : metrics'.uncounted = metrics.uncounted) :
    metrics'.attempted.repeatedForContent.uncounted =
      metrics.attempted.repeatedForContent.uncounted := by
  have same : metrics'.contentRetries = metrics.contentRetries :=
    (Metrics.mk.inj alike).2.1
  exact congrArg (fun retries => (⟨0, retries + 1, 0⟩ : Metrics)) same

def Faults.Transient (faults : Faults) : Prop :=
  ∀ n, ∀ fault ∈ faults n, fault.failure.MayPass

variable {faults : Faults}

/-! ## Asking until a reply is accepted -/

namespace Stage

variable {α : Type} {stage : Stage} {base : Nat} {prompt : String}
  {read : String → Except ContentDefect α}

theorem attempt_of_fault {fault : Fault} (transient : fault.failure.MayPass)
    {number : Nat} {feedback : Option String} {metrics : Metrics} {left : Nat}
    {reasoner heard : Reasoner}
    (asked : reasoner.ask (promptWith prompt feedback) = (.failed fault.failure, heard))
    (calm : heard.IsCalm) :
    ∃ now, attempt stage base prompt read number feedback metrics (left + 1) reasoner =
      attempt stage base prompt read (number + 1) feedback
        metrics.attempted.repeatedForTransport left (heard.atTime now) := by
  obtain ⟨now, slept⟩ := calm.sleep (backoffDelay base number)
  refine ⟨now, ?_⟩
  rw [attempt, asked]
  simp only [fault.failure.isTransient_iff.2 transient, slept]

theorem attempt_past (transient : faults.Transient) {first second heard : Reasoner}
    (inStep : InStep faults first second) {feedback : Option String} {reply : Reply String}
    (asked : first.ask (promptWith prompt feedback) = (reply, heard)) {left stop : Nat}
    (enough : faults.Suffice (left + 1) first.calls.length stop)
    (further : heard.calls.length ≤ stop) (number : Nat) (metrics : Metrics) :
    ∃ number' metrics' left' before last, metrics'.uncounted = metrics.uncounted ∧ left' ≤ left ∧
      faults.Suffice left' heard.calls.length stop ∧
      attempt stage base prompt read number feedback metrics left second =
        attempt stage base prompt read number' feedback metrics' left' before ∧
      before.ask (promptWith prompt feedback) = (reply, last) ∧ InStep faults heard last := by
  obtain ⟨⟨number', metrics'⟩, reached⟩ := inStep.ask
    (fun state : Nat × Metrics => attempt stage base prompt read state.1 feedback state.2)
    (fun state => state.2.uncounted = metrics.uncounted)
    (fun fault member state left s t alike failed calm => by
      obtain ⟨now, again⟩ := attempt_of_fault (transient _ fault member) failed calm
      exact ⟨(state.1 + 1, state.2.attempted.repeatedForTransport), now, alike, again⟩)
    asked enough further (number, metrics) rfl
  exact ⟨number', metrics', reached⟩

theorem uncounted_attempted {output : Except RunError α} {metrics metrics' : Metrics}
    (alike : metrics'.uncounted = metrics.uncounted) :
    StageRun.uncounted ⟨output, metrics'.attempted, none⟩ =
      StageRun.uncounted ⟨output, metrics.attempted, none⟩ :=
  congrArg (fun metrics => (⟨output, metrics, none⟩ : StageRun α)) alike

theorem agree_attempt (transient : faults.Transient) (number number' : Nat)
    (feedback : Option String) (metrics metrics' : Metrics)
    (alike : metrics'.uncounted = metrics.uncounted) {left left' : Nat} (fewer : left' ≤ left)
    {first second : Reasoner} (inStep : InStep faults first second)
    (enough : faults.Suffice (left' + 1) first.calls.length
      (attempt stage base prompt read number feedback metrics left first).2.calls.length) :
    Agree faults StageRun.uncounted
      (attempt stage base prompt read number feedback metrics left first)
      (attempt stage base prompt read number' feedback metrics' left' second) := by
  generalize delayed : attempt stage base prompt read number' feedback metrics' left' second = two
  fun_induction attempt stage base prompt read number feedback metrics left first
    generalizing number' metrics' left' second two with
  | case1 _ _ _ _ first _ _ asked => exact absurd rfl (inStep.calm.ne_cancelled asked)
  | case2 number feedback metrics first _ failure heard asked left passes counted slept waited ih =>
    have next := extends_attempt stage base prompt read (number + 1) feedback counted left slept
    obtain ⟨number', metrics', left', before, last, alike', fewer', enough, past, asked',
        further⟩ :=
      attempt_past transient inStep asked enough (calls_of_sleep waited ▸ next.calls.length_le)
        number' metrics'
    obtain ⟨-, last', waited', further⟩ := further.sleep waited (backoffDelay base number')
    rw [← calls_of_sleep waited] at enough
    -- the first run makes one more call, for which the second one still has an attempt
    obtain ⟨left', rfl⟩ := enough.again (further.calm.length_lt (extends_ask_attempt ..))
    rw [past, attempt, asked'] at delayed
    simp only [passes, waited'] at delayed
    exact ih (number' + 1) metrics'.attempted.repeatedForTransport (alike'.trans alike)
      (by omega) further enough two delayed
  | case3 _ _ _ _ _ _ _ asked _ _ _ _ given =>
    exact absurd ((inStep.calm.of_ask asked).reached given) Bool.false_ne_true
  | case4 left number feedback metrics first _ failure heard asked final =>
    obtain ⟨number', metrics', left', before, last, alike', fewer', -, past, asked', further⟩ :=
      attempt_past transient inStep asked enough (Nat.le_refl _) number' metrics'
    rw [past, attempt, asked'] at delayed
    dsimp only at delayed
    split at delayed
    case h_1 passes =>
      -- an attempt that is left with the faults is left without them
      obtain ⟨left, rfl⟩ : ∃ left', left = left' + 1 := Nat.exists_eq_add_of_le' (by omega)
      exact absurd passes (final left rfl)
    case h_2 =>
      subst delayed
      exact ⟨uncounted_attempted (alike'.trans alike), further⟩
  | case5 left number feedback metrics first _ reply heard asked value accepted =>
    obtain ⟨number', metrics', left', before, last, alike', fewer', -, past, asked', further⟩ :=
      attempt_past transient inStep asked enough (Nat.le_refl _) number' metrics'
    rw [past, attempt, asked'] at delayed
    simp only [accepted] at delayed
    subst delayed
    exact ⟨uncounted_attempted (alike'.trans alike), further⟩
  | case6 number feedback metrics first _ reply heard asked defect refused left ih =>
    have next := extends_attempt stage base prompt read (number + 1) (some defect.feedback)
      metrics.attempted.repeatedForContent left heard
    obtain ⟨number', metrics', left', before, last, alike', fewer', enough, past, asked',
        further⟩ :=
      attempt_past transient inStep asked enough next.calls.length_le number' metrics'
    obtain ⟨left', rfl⟩ := enough.again (further.calm.length_lt (extends_ask_attempt ..))
    rw [past, attempt, asked'] at delayed
    simp only [refused] at delayed
    exact ih (number' + 1) metrics'.attempted.repeatedForContent
      (Metrics.uncounted_repeatedForContent (alike'.trans alike)) (by omega) further enough two
      delayed
  | case7 number feedback metrics first _ reply heard asked defect refused =>
    obtain ⟨number', metrics', left', before, last, alike', fewer', -, past, asked', further⟩ :=
      attempt_past transient inStep asked enough (Nat.le_refl _) number' metrics'
    obtain rfl : left' = 0 := by omega
    rw [past, attempt, asked'] at delayed
    simp only [refused] at delayed
    subst delayed
    exact ⟨uncounted_attempted (alike'.trans alike), further⟩

/-- A stage comes to the same with faults, if its attempts suffice. -/
theorem agree_run (transient : faults.Transient) {first second : Reasoner}
    (inStep : InStep faults first second) (budget : RetryBudget)
    (accept : Json → Option (Except Violation α))
    (enough : faults.Suffice (max budget.maxAttempts 1) first.calls.length
      (run stage budget prompt accept first).2.calls.length) :
    Agree faults StageRun.uncounted (run stage budget prompt accept first)
      (run stage budget prompt accept second) := by
  have attempts : max budget.maxAttempts 1 = budget.maxAttempts - 1 + 1 := by omega
  rw [attempts] at enough
  exact agree_attempt transient 1 1 none .zero .zero rfl (Nat.le_refl _) inStep enough

end Stage

end PriorArt
