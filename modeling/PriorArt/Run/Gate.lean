import PriorArt.Run.Clock

/-!
# The rate gate

A gate grants one permit a period. The first permit is due at once; each later one a period after
the one before it was due, or a period after it was taken, if it was taken late by more than the
slack. Times of the gate are in nanoseconds.
-/

namespace PriorArt

/-- A gate with the time at which its next permit is due. -/
structure Gate where
  due : Nat
  period : Nat
  deriving DecidableEq, Inhabited

namespace Gate

def nanosPerMilli : Nat := 1000000

def nanosPerMinute : Nat := 60000000000

/-- A permit taken later than this counts as late. -/
def slack : Nat := 5000000

/-- The period for a number of permits a minute; zero counts as one. -/
def periodFor (perMinute : Nat) : Nat :=
  nanosPerMinute / max perMinute 1

/-- A gate whose first permit is due at a time in milliseconds. -/
def opening (perMinute now : Nat) : Gate :=
  ⟨now * nanosPerMilli, periodFor perMinute⟩

theorem periodFor_pos {perMinute : Nat} (h : perMinute ≤ nanosPerMinute) :
    0 < periodFor perMinute :=
  Nat.div_pos (Nat.max_le.2 ⟨h, by decide⟩) (by omega)

/-- The first whole millisecond at which the permit may be taken. -/
def dueMilli (gate : Gate) : Nat :=
  (gate.due + (nanosPerMilli - 1)) / nanosPerMilli

theorem due_le_dueMilli (gate : Gate) : gate.due ≤ gate.dueMilli * nanosPerMilli := by
  simp only [dueMilli, nanosPerMilli]
  omega

/-- The gate after its permit was taken at a time in milliseconds. -/
def taken (gate : Gate) (now : Nat) : Gate :=
  if gate.due + slack < now * nanosPerMilli then
    { gate with due := now * nanosPerMilli + gate.period }
  else { gate with due := gate.due + gate.period }

@[simp] theorem period_taken (gate : Gate) (now : Nat) : (gate.taken now).period = gate.period := by
  unfold taken
  split <;> rfl

theorem due_add_period_le_due_taken (gate : Gate) (now : Nat) :
    gate.due + gate.period ≤ (gate.taken now).due := by
  unfold taken
  split
  · dsimp only; omega
  · exact Nat.le_refl _

/-- A permit is not due earlier than a period after the one before it was taken, but for the
slack. -/
theorem now_add_period_le_due_taken (gate : Gate) (now : Nat) :
    now * nanosPerMilli + gate.period ≤ (gate.taken now).due + slack := by
  unfold taken
  split
  · dsimp only; omega
  · dsimp only; omega

def acquire (gate : Gate) (clock : Clock) : Bool × Gate × Clock :=
  match clock.waitUntil (max clock.now gate.dueMilli) with
  | (true, clock) => (true, gate.taken clock.now, clock)
  | (false, clock) => (false, gate, clock)

end Gate

/-- The greatest number of times that a wait between attempts is doubled. -/
def mostDoublings : Nat := 2

/-- The wait after the attempt with a number, counted from one: the base, twice the base, and four
times the base from then on. -/
def backoffDelay (base attempt : Nat) : Nat :=
  base * Nat.pow 2 (min (attempt - 1) mostDoublings)

theorem backoffDelay_le (base attempt : Nat) : backoffDelay base attempt ≤ base * 4 :=
  Nat.mul_le_mul_left base <|
    Nat.pow_le_pow_right (by decide : 0 < 2) (Nat.min_le_right (attempt - 1) mostDoublings)

end PriorArt
