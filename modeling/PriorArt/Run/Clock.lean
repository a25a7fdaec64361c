/-!
# The clock of a run

A run takes place on a clock that counts whole milliseconds from the start of the run and moves
only when the run waits. Somebody may cancel the run: before it starts, at some time, or at a
moment that an outside service brings about. A wait ends early when the run is cancelled, and no
wait lasts longer than thirty years.
-/

namespace PriorArt

/-- The time of a run, and whether and when the run is cancelled. -/
structure Clock where
  now : Nat
  cancelled : Bool
  cancelAt : Option Nat
  deriving DecidableEq, Inhabited

namespace Clock

/-- The clock at the start of a run that nobody cancels. -/
def start : Clock := ⟨0, false, none⟩

def cancel (clock : Clock) : Clock :=
  { clock with cancelled := true }

/-- The cancellation that a wait until a time runs into, if there is one. One at that very time
comes too late. -/
def cancellationBefore (clock : Clock) (time : Nat) : Option Nat :=
  clock.cancelAt.filter (· < time)

/-- Waits until a time, or until the run is cancelled: whether the time was reached, and the clock
after that. -/
def waitUntil (clock : Clock) (time : Nat) : Bool × Clock :=
  if clock.cancelled then (false, clock)
  else
    match clock.cancellationBefore time with
    | some moment => (false, { clock with now := max clock.now moment, cancelled := true })
    | none => (true, { clock with now := max clock.now time })

theorem now_le_waitUntil (clock : Clock) (time : Nat) :
    clock.now ≤ (clock.waitUntil time).2.now := by
  unfold waitUntil
  split
  · exact Nat.le_refl _
  · split <;> exact Nat.le_max_left ..

theorem waitUntil_of_cancelled {clock : Clock} (h : clock.cancelled = true) (time : Nat) :
    clock.waitUntil time = (false, clock) := by
  simp [waitUntil, h]

theorem waitUntil_of_uncancelled {clock : Clock} (h : clock.cancelled = false)
    (never : clock.cancelAt = none) (time : Nat) :
    clock.waitUntil time = (true, { clock with now := max clock.now time }) := by
  simp [waitUntil, cancellationBefore, h, never]

/-- A wait comes to its end, or it is given up when the run is cancelled. -/
theorem waitUntil_cases {clock after : Clock} {time : Nat} {reached : Bool}
    (waited : clock.waitUntil time = (reached, after)) :
    reached = true ∧ after.cancelled = false ∧ after.now = max clock.now time ∨
      reached = false ∧ after.cancelled = true ∧ after.now ≤ max clock.now time := by
  unfold waitUntil at waited
  split at waited
  · next cancelled =>
    cases waited
    exact .inr ⟨rfl, cancelled, Nat.le_max_left ..⟩
  · next uncancelled =>
    split at waited
    · next moment set =>
      cases waited
      have before : moment < time := of_decide_eq_true (Option.filter_eq_some_iff.1 set).2
      exact .inr ⟨rfl, rfl, by dsimp only; omega⟩
    · cases waited
      exact .inl ⟨rfl, Bool.eq_false_iff.2 uncancelled, rfl⟩

/-- A wait is given up only if the run is cancelled. -/
theorem waitUntil_eq_false_iff (clock : Clock) (time : Nat) :
    (clock.waitUntil time).1 = false ↔ (clock.waitUntil time).2.cancelled = true := by
  generalize waited : clock.waitUntil time = wait
  obtain ⟨reached, after⟩ := wait
  obtain ⟨rfl, uncancelled, -⟩ | ⟨rfl, cancelled, -⟩ := waitUntil_cases waited
  · simp [uncancelled]
  · simp [cancelled]

theorem cancelAt_waitUntil (clock : Clock) (time : Nat) :
    (clock.waitUntil time).2.cancelAt = clock.cancelAt := by
  unfold waitUntil
  split
  · rfl
  · split <;> rfl

/-- A run is cancelled during a wait only at the time that is set for that. -/
theorem set_of_cancelled_waitUntil {clock : Clock} {time : Nat}
    (cancelled : (clock.waitUntil time).2.cancelled = true) :
    clock.cancelled = true ∨
      ∃ moment ∈ clock.cancelAt, moment ≤ (clock.waitUntil time).2.now := by
  unfold waitUntil at cancelled ⊢
  split at cancelled
  · exact .inl cancelled
  · next uncancelled =>
    split at cancelled
    · next moment set =>
      rw [if_neg uncancelled]
      exact .inr ⟨moment, (Option.filter_eq_some_iff.1 set).1, Nat.le_max_right ..⟩
    · exact .inl cancelled

/-- The longest wait, in milliseconds: thirty years of 365 days. -/
def longestWait : Nat := 30 * 365 * 24 * 60 * 60 * 1000

def afterWait (clock : Clock) (duration : Nat) : Nat :=
  clock.now + min duration longestWait

def sleep (clock : Clock) (duration : Nat) : Bool × Clock :=
  clock.waitUntil (clock.afterWait duration)

/-- Waits for a number of milliseconds, cancelled or not. -/
def pass (clock : Clock) (duration : Nat) : Clock :=
  let time := clock.afterWait duration
  { clock with
    now := time
    cancelled := clock.cancelled || (clock.cancellationBefore time).isSome }

end Clock

end PriorArt
