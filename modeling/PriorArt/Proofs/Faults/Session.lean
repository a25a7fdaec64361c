import PriorArt.Proofs.Session.Calm

/-!
# Sessions with inserted faults

1. `Faults.insertedInto`: the answers of a service when failures are inserted before its calls.
2. `Faults.repeated`: the questions, when each is asked once more for every fault before its call.
   `Faults.Suffice`: there are attempts enough for them, from one call up to another.
   `Faults.Within`: there are so for each of several series of calls.
3. `Session.Lags`: a session that has some faults still before it, compared with one that has none.
   `Session.InStep`: it has all the faults of the next call before it.
4. `Session.InStep.ask`: whatever repeats a question after a fault gets from the first to the second
   session the same reply, once it has spent an attempt on each fault.
-/

namespace PriorArt

/-- A failure that is inserted before a call. -/
structure Fault where
  delay : Nat
  failure : Failure

def Fault.answer {α : Type} (fault : Fault) : Answer α :=
  ⟨fault.delay, false, .error fault.failure⟩

/-- The faults before each call, by the number of the call. -/
abbrev Faults := Nat → List Fault

namespace Faults

variable (faults : Faults)

/-! ## The answers -/

/-- The answers from the call with a number on, when some faults come before it. -/
def feed {α : Type} (answer : Nat → Answer α) : List Fault → Nat → Nat → Answer α
  | fault :: _, _, 0 => fault.answer
  | _ :: pending, n, k + 1 => feed answer pending n k
  | [], n, 0 => answer n
  | [], n, k + 1 => feed answer (faults (n + 1)) (n + 1) k

/-- The answers with the faults inserted before them. -/
def insertedInto {α : Type} (answer : Nat → Answer α) : Nat → Answer α :=
  faults.feed answer (faults 0) 0

theorem cancels_feed {α : Type} {answer : Nat → Answer α}
    (quiet : ∀ n, (answer n).cancels = false) (pending : List Fault) (n k : Nat) :
    (faults.feed answer pending n k).cancels = false := by
  fun_induction feed faults answer pending n k with
  | case1 => rfl
  | case2 _ _ _ _ ih => exact ih
  | case3 n => exact quiet n
  | case4 _ _ ih => exact ih

/-! ## The questions -/

/-- The questions from the call with a number on, each asked once more for every fault before its
call. -/
def repeated {Question : Type} : Nat → List Question → List Question
  | _, [] => []
  | n, question :: rest =>
    List.replicate ((faults n).length + 1) question ++ repeated (n + 1) rest

theorem repeated_concat {Question : Type} (n : Nat) (questions : List Question)
    (question : Question) :
    faults.repeated n (questions ++ [question]) = faults.repeated n questions ++
      List.replicate ((faults (n + questions.length)).length + 1) question := by
  induction questions generalizing n with
  | nil => simp [repeated]
  | cons first rest ih =>
    rw [List.cons_append, repeated, repeated, ih, List.append_assoc, List.length_cons,
      Nat.add_right_comm, Nat.add_assoc]

/-! ## The attempts -/

/-- The number of faults before so many calls from the one with a number on. -/
def among : Nat → Nat → Nat
  | _, 0 => 0
  | start, made + 1 => (faults start).length + among (start + 1) made

/-- One after the other so many calls were made, and with the faults before them they are no more
than a number each time. -/
def Within (most : Nat) : Nat → List Nat → Prop
  | _, [] => True
  | start, made :: rest => made + faults.among start made ≤ most ∧ Within most (start + made) rest

/-- So many attempts are enough for the calls from one number up to another, and for the faults
before them. -/
def Suffice (attempts start stop : Nat) : Prop :=
  ∃ made, stop = start + made ∧ made + faults.among start made ≤ attempts

variable {faults} {start stop left : Nat}

/-- One call at a time leaves attempts for the faults before it, if there are not too many. -/
theorem within_of_single {most : Nat} (few : ∀ n, 1 + (faults n).length ≤ most) {made : List Nat}
    (single : ∀ calls ∈ made, calls = 1) : faults.Within most start made := by
  induction made generalizing start with
  | nil => exact trivial
  | cons calls rest ih =>
    obtain ⟨rfl, others⟩ := List.forall_mem_cons.1 single
    exact ⟨few start, ih others⟩

/-- Past the faults before the next call, and past that call. -/
theorem Suffice.next (enough : faults.Suffice (left + 1) start stop) (further : start + 1 ≤ stop) :
    (faults start).length ≤ left ∧
      faults.Suffice (left - (faults start).length) (start + 1) stop := by
  obtain ⟨made, rfl, fits⟩ := enough
  obtain ⟨made, rfl⟩ : ∃ rest, made = rest + 1 := Nat.exists_eq_add_of_le' (by omega)
  rw [among] at fits
  exact ⟨by omega, made, by omega, by omega⟩

/-- If there is a next call, there is an attempt for it. -/
theorem Suffice.again (enough : faults.Suffice left start stop) (further : start + 1 ≤ stop) :
    ∃ left', left = left' + 1 := by
  obtain ⟨made, rfl, fits⟩ := enough
  exact Nat.exists_eq_add_of_le' (by omega)

end Faults

namespace Session

variable {Question α : Type}

/-! ## Two sessions -/

/-- The second session is before some faults and then goes on as the first, with more faults. -/
structure Lags (faults : Faults) (pending : List Fault) (first second : Session Question α) :
    Prop where
  calm : first.IsCalm
  delayed : second.IsCalm
  answers : ∀ k, second.answer (second.calls.length + k) =
    faults.feed first.answer pending first.calls.length k

/-- The second session made each call of the first one as often as the faults demand. -/
structure InStep (faults : Faults) (first second : Session Question α) : Prop
    extends Lags faults (faults first.calls.length) first second where
  questions : second.calls.map (·.question) = faults.repeated 0 (first.calls.map (·.question))

/-- What two runs come to reads the same, and their sessions are in step. -/
structure Agree {β γ : Type} (faults : Faults) (read : β → γ)
    (one two : β × Session Question α) : Prop where
  same : read two.1 = read one.1
  inStep : InStep faults one.2 two.2

section Steps

variable {faults : Faults} {pending : List Fault} {fault : Fault}
  {first second : Session Question α}

theorem Lags.atTime (lags : Lags faults pending first second) (now now' : Nat) :
    Lags faults pending (first.atTime now) (second.atTime now') :=
  ⟨lags.calm.atTime now, lags.delayed.atTime now', lags.answers⟩

theorem Lags.pass (lags : Lags faults (fault :: pending) first second) (question : Question) :
    ∃ now, second.ask question = (.failed fault.failure, (second.calling question).atTime now) ∧
      Lags faults pending first ((second.calling question).atTime now) := by
  obtain ⟨now, asked⟩ := lags.delayed.ask question
  have answer := lags.answers 0
  rw [Nat.add_zero, Faults.feed] at answer
  refine ⟨now, by rw [asked, answer]; rfl, lags.calm,
    (lags.delayed.calling question).atTime now, fun k => ?_⟩
  have next := lags.answers (k + 1)
  rw [Faults.feed, ← Nat.add_assoc, Nat.add_right_comm] at next
  simpa using next

/-- Without pending faults both sessions get the same answer. -/
theorem Lags.meet (lags : Lags faults [] first second) (question : Question) :
    ∃ reply now now', first.ask question = (reply, (first.calling question).atTime now) ∧
      second.ask question = (reply, (second.calling question).atTime now') ∧
      Lags faults (faults (first.calls.length + 1)) ((first.calling question).atTime now)
        ((second.calling question).atTime now') := by
  obtain ⟨now, asked⟩ := lags.calm.ask question
  obtain ⟨now', asked'⟩ := lags.delayed.ask question
  have answer := lags.answers 0
  rw [Nat.add_zero, Faults.feed] at answer
  refine ⟨_, now, now', asked, by rw [asked', answer], (lags.calm.calling question).atTime now,
    (lags.delayed.calling question).atTime now', fun k => ?_⟩
  have next := lags.answers (k + 1)
  rw [Faults.feed, ← Nat.add_assoc, Nat.add_right_comm] at next
  simpa using next

/-- What repeats a question after a fault is past the pending ones when it has spent an attempt on
each. -/
theorem Lags.passAll {σ ρ : Type} (run : σ → Nat → Session Question α → ρ) (holds : σ → Prop)
    {question : Question} (lags : Lags faults pending first second)
    (repeats : ∀ fault ∈ pending, ∀ state left (s t : Session Question α), holds state →
      s.ask question = (.failed fault.failure, t) → t.IsCalm →
        ∃ state' now, holds state' ∧ run state (left + 1) s = run state' left (t.atTime now))
    {left : Nat} (enough : pending.length ≤ left) (state : σ) (held : holds state) :
    ∃ state' last, holds state' ∧
      run state left second = run state' (left - pending.length) last ∧
      Lags faults [] first last ∧
      last.calls.map (·.question) =
        second.calls.map (·.question) ++ List.replicate pending.length question := by
  induction pending generalizing second left state with
  | nil => exact ⟨state, second, held, rfl, lags, by simp⟩
  | cons fault pending ih =>
    obtain ⟨left, rfl⟩ : ∃ rest, left = rest + 1 :=
      Nat.exists_eq_add_of_le' (Nat.le_trans (Nat.succ_le_succ (Nat.zero_le _)) enough)
    obtain ⟨now, asked, further⟩ := lags.pass question
    obtain ⟨state', now', held', again⟩ := repeats fault List.mem_cons_self state left second _ held
      asked further.delayed
    obtain ⟨state'', last, held'', others, met, questions⟩ :=
      ih (further.atTime first.clock.now now')
        (fun fault member => repeats fault (List.mem_cons_of_mem _ member))
        (Nat.le_of_succ_le_succ enough) state' held'
    refine ⟨state'', last, held'', ?_, met, ?_⟩
    · rw [again, others, List.length_cons, Nat.add_sub_add_right]
    · rw [questions, List.length_cons, List.replicate_succ]
      simp

end Steps

namespace InStep

variable {faults : Faults} {first second heard : Session Question α}

theorem beginning {answer : Nat → Answer α} {clock clock' : Clock} (calm : clock.IsCalm)
    (calm' : clock'.IsCalm) (quiet : ∀ n, (answer n).cancels = false) :
    InStep faults (⟨clock, answer, []⟩ : Session Question α)
      ⟨clock', faults.insertedInto answer, []⟩ where
  calm := ⟨calm, quiet⟩
  delayed := ⟨calm', faults.cancels_feed quiet _ _⟩
  answers := fun k => congrArg _ (Nat.zero_add k)
  questions := rfl

theorem ofClock (inStep : InStep faults first second) {clock clock' : Clock}
    (calm : clock.IsCalm) (calm' : clock'.IsCalm) :
    InStep faults { first with clock } { second with clock := clock' } :=
  ⟨⟨inStep.calm.ofClock calm, inStep.delayed.ofClock calm', inStep.answers⟩, inStep.questions⟩

theorem atTime (inStep : InStep faults first second) (now now' : Nat) :
    InStep faults (first.atTime now) (second.atTime now') :=
  ⟨inStep.toLags.atTime now now', inStep.questions⟩

theorem sleep (inStep : InStep faults first second) {duration : Nat} {reached : Bool}
    (slept : first.sleep duration = (reached, heard)) (duration' : Nat) :
    reached = true ∧ ∃ last, second.sleep duration' = (true, last) ∧ InStep faults heard last := by
  obtain ⟨now, waited⟩ := inStep.calm.sleep duration
  obtain ⟨now', waited'⟩ := inStep.delayed.sleep duration'
  obtain ⟨rfl, rfl⟩ := Prod.mk.inj (waited.symm.trans slept)
  exact ⟨rfl, _, waited', inStep.atTime now now'⟩

/-- What repeats a question after every fault gets the reply that there is without them, and is left
with enough attempts for the calls after that. -/
theorem ask {σ ρ : Type} (run : σ → Nat → Session Question α → ρ) (holds : σ → Prop)
    {question : Question} (inStep : InStep faults first second)
    (repeats : ∀ fault ∈ faults first.calls.length, ∀ state left (s t : Session Question α),
      holds state → s.ask question = (.failed fault.failure, t) → t.IsCalm →
        ∃ state' now, holds state' ∧ run state (left + 1) s = run state' left (t.atTime now))
    {reply : Reply α} (asked : first.ask question = (reply, heard)) {left stop : Nat}
    (enough : faults.Suffice (left + 1) first.calls.length stop)
    (further : heard.calls.length ≤ stop) (state : σ) (held : holds state) :
    ∃ state' left' before last, holds state' ∧ left' ≤ left ∧
      faults.Suffice left' heard.calls.length stop ∧
      run state left second = run state' left' before ∧
      before.ask question = (reply, last) ∧ InStep faults heard last := by
  have length := inStep.calm.length_ask asked
  obtain ⟨few, rest⟩ := enough.next (length ▸ further)
  obtain ⟨state', before, held', others, lags, questions⟩ :=
    inStep.toLags.passAll run holds repeats few state held
  obtain ⟨reply', now, now', asked', met, ahead⟩ := lags.meet question
  obtain ⟨rfl, rfl⟩ := Prod.mk.inj (asked'.symm.trans asked)
  refine ⟨state', _, before, _, held', Nat.sub_le .., length ▸ rest, others, met,
    length ▸ ahead, ?_⟩
  rw [calls_atTime, calls_calling, List.map_append, questions, inStep.questions, calls_atTime,
    calls_calling, List.map_append, List.map_singleton, List.map_singleton, Faults.repeated_concat,
    Nat.zero_add, List.length_map, List.replicate_succ', List.append_assoc]

end InStep

end Session

end PriorArt
