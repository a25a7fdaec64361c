import PriorArt.Proofs.Replies
import PriorArt.Proofs.Session.Attempts

/-!
# The outcomes of the attempts of a stage

1. `Stage.Outcome`: what a result of the service is worth to a stage, and what a stage makes of it.
2. `Stage.Prompted`, `Stage.metricsOf`: how the question of an attempt and the metrics depend on the
   outcomes before it.
3. `Stage.Attempted`: the attempts of a stage after others. One more attempt before them
   (`Attempted.next`) adds its outcome to those that the others have before them.
4. `Stage.Course`: the course of a stage that nobody cancels (`Stage.course_run`).
-/

namespace PriorArt

open Session

namespace Stage

variable {α : Type}

/-! ## Outcomes -/

/-- What a result is worth to a stage. -/
inductive Outcome (α : Type) where
  | transient (failure : Failure)
  | fatal (failure : Failure)
  | unusable (defect : ContentDefect)
  | accepted (value : α)

namespace Outcome

/-- The outcome of a result: a failure that may pass or not, or a reply whose text between the fences
is empty, is not JSON that `accept` can decode, breaks a rule of `accept` or is accepted. -/
def ofResult (accept : Json → Option (Except Violation α)) : Except Failure String → Outcome α
  | .error failure => if failure.MayPass then .transient failure else .fatal failure
  | .ok reply =>
    if (Text.unfence reply).isEmpty then .unusable .empty
    else
      match Json.read? (Text.unfence reply) with
      | none => .unusable .invalidJson
      | some json =>
        match accept json with
        | none => .unusable .invalidJson
        | some (.error violation) => .unusable (.violation violation)
        | some (.ok value) => .accepted value

def isFinal : Outcome α → Bool
  | .fatal _ | .accepted _ => true
  | .transient _ | .unusable _ => false

def isUnusable : Outcome α → Bool
  | .unusable _ => true
  | _ => false

def isTransient : Outcome α → Bool
  | .transient _ => true
  | _ => false

/-- What a stage ends with that makes no attempt after this one. -/
def verdict (stage : Stage) : Outcome α → Except RunError α
  | .transient failure | .fatal failure => .error (.provider failure)
  | .unusable defect => .error (.content stage defect)
  | .accepted value => .ok value

section Result

variable {accept : Json → Option (Except Violation α)}

theorem ofResult_ok (reply : String) :
    ofResult accept (.ok reply) =
      match readReply accept reply with
      | .error defect => .unusable defect
      | .ok value => .accepted value := by
  unfold ofResult readReply
  dsimp only
  by_cases empty : (Text.unfence reply).isEmpty = true
  · rw [if_pos empty, if_pos empty]
  · rw [if_neg empty, if_neg empty]
    rcases Json.read? (Text.unfence reply) with _ | json
    · rfl
    · rw [Option.bind_some]
      dsimp only
      rcases accept json with _ | violation | value <;> rfl

end Result

end Outcome

/-! ## Questions and counts -/

/-- The question of an attempt after others: the prompt, followed by feedback on the last reply that
could not be used, if there was one. -/
inductive Prompted (prompt : String) : List (Outcome α) → String → Prop
  | plain {earlier : List (Outcome α)} :
      (∀ outcome ∈ earlier, outcome.isUnusable = false) → Prompted prompt earlier prompt
  | corrected {before after : List (Outcome α)} {defect : ContentDefect} :
      (∀ outcome ∈ after, outcome.isUnusable = false) →
      Prompted prompt (before ++ .unusable defect :: after)
        (prompt ++ "\n\n" ++ defect.feedback)

/-- What the metrics say before an attempt after others. -/
def metricsOf (earlier : List (Outcome α)) : Metrics where
  attempts := earlier.length
  contentRetries := earlier.countP Outcome.isUnusable
  transportRetries := earlier.countP Outcome.isTransient

section Earlier

variable {prompt question : String} {earlier : List (Outcome α)}

theorem Prompted.anew {defect : ContentDefect} :
    Prompted prompt (earlier ++ [.unusable defect]) (prompt ++ "\n\n" ++ defect.feedback) :=
  .corrected fun _ member => absurd member List.not_mem_nil

theorem Prompted.again (prompted : Prompted prompt earlier question) {outcome : Outcome α}
    (used : outcome.isUnusable = false) : Prompted prompt (earlier ++ [outcome]) question := by
  cases prompted with
  | plain others =>
    refine .plain fun other member => ?_
    rcases List.mem_append.1 member with member | member
    · exact others other member
    · rwa [List.mem_singleton.1 member]
  | corrected others =>
    rw [List.append_assoc, List.cons_append]
    refine .corrected fun other member => ?_
    rcases List.mem_append.1 member with member | member
    · exact others other member
    · rwa [List.mem_singleton.1 member]

theorem metricsOf_transient (failure : Failure) :
    metricsOf (earlier ++ [.transient failure]) =
      (metricsOf earlier).attempted.repeatedForTransport := by
  simp [metricsOf, Metrics.attempted, Metrics.repeatedForTransport, Outcome.isUnusable,
    Outcome.isTransient]

theorem metricsOf_unusable (defect : ContentDefect) :
    metricsOf (earlier ++ [.unusable defect]) =
      (metricsOf earlier).attempted.repeatedForContent := by
  simp [metricsOf, Metrics.attempted, Metrics.repeatedForContent, Outcome.isUnusable,
    Outcome.isTransient]

theorem balanced_metricsOf (going : ∀ outcome ∈ earlier, outcome.isFinal = false) :
    (metricsOf earlier).attempts =
      (metricsOf earlier).contentRetries + (metricsOf earlier).transportRetries := by
  show earlier.length = earlier.countP Outcome.isUnusable + earlier.countP Outcome.isTransient
  rw [List.length_eq_countP_add_countP Outcome.isUnusable]
  congr 1
  refine List.countP_congr fun outcome member => ?_
  have others := going outcome member
  cases outcome with
  | transient => simp [Outcome.isUnusable, Outcome.isTransient]
  | unusable => simp [Outcome.isUnusable, Outcome.isTransient]
  | fatal => cases others
  | accepted => cases others

end Earlier

/-! ## The attempts of a stage -/

def initial (outcomes : Nat → Outcome α) (n : Nat) : List (Outcome α) :=
  (List.range n).map outcomes

theorem initial_succ (outcomes : Nat → Outcome α) (n : Nat) :
    initial outcomes (n + 1) = outcomes 0 :: initial (fun n => outcomes (n + 1)) n := by
  rw [initial, List.range_succ_eq_map, List.map_cons, List.map_map]
  rfl

/-- The attempts of a stage after others. -/
structure Attempted (stage : Stage) (prompt : String) (earlier : List (Outcome α))
    (outcomes : Nat → Outcome α) (most : Nat) (reasoner : Reasoner)
    (done : StageRun α × Reasoner) (last : Nat) (calls : List (Call String)) : Prop where
  stops : Stops (fun n => (outcomes n).isFinal = true) most last
  ended : done.1 =
    ⟨(outcomes last).verdict stage, (metricsOf (earlier ++ initial outcomes last)).attempted, none⟩
  made : done.2.calls = reasoner.calls ++ calls
  count : calls.length = last + 1
  prompted : ∀ n, ∀ call ∈ calls[n]?, Prompted prompt (earlier ++ initial outcomes n) call.question

section Attempts

variable {stage : Stage} {prompt : String} {earlier : List (Outcome α)}
  {outcomes : Nat → Outcome α} {outcome : Outcome α} {reasoner : Reasoner} {call : Call String}

theorem Attempted.single {most : Nat} {after : Reasoner} (isFirst : outcomes 0 = outcome)
    (ends : outcome.isFinal = true ∨ most = 1)
    (made : after.calls = reasoner.calls ++ [call])
    (prompted : Prompted prompt earlier call.question) :
    Attempted stage prompt earlier outcomes most reasoner
      (⟨outcome.verdict stage, (metricsOf earlier).attempted, none⟩, after) 0 [call] where
  stops := by
    rcases ends with final | rfl
    · exact .of_isFinal (by rw [isFirst, final])
    · exact .of_single
  ended := by simp [initial, isFirst]
  made
  count := rfl
  prompted := by
    intro n other isOther
    cases n with
    | zero =>
      obtain rfl : call = other := by simpa using isOther
      simpa [initial] using prompted
    | succ n => simp at isOther

theorem Attempted.next {left last : Nat} {later : Reasoner} {done : StageRun α × Reasoner}
    {calls : List (Call String)}
    (attempted : Attempted stage prompt (earlier ++ [outcome]) (fun n => outcomes (n + 1))
      (left + 1) later done last calls)
    (isFirst : outcomes 0 = outcome) (going : outcome.isFinal = false)
    (made : later.calls = reasoner.calls ++ [call])
    (prompted : Prompted prompt earlier call.question) :
    Attempted stage prompt earlier outcomes (left + 1 + 1) reasoner done (last + 1)
      (call :: calls) := by
  subst isFirst
  have shift (n : Nat) : earlier ++ [outcomes 0] ++ initial (fun n => outcomes (n + 1)) n =
      earlier ++ initial outcomes (n + 1) := by
    rw [List.append_assoc, List.singleton_append, ← initial_succ]
  exact
    { stops := attempted.stops.next (Bool.eq_false_iff.1 going)
      ended := by rw [attempted.ended, shift]
      made := by
        rw [attempted.made, made, List.append_assoc]
        rfl
      count := congrArg (· + 1) attempted.count
      prompted := by
        intro n other isOther
        cases n with
        | zero =>
          obtain rfl : call = other := by simpa using isOther
          simpa [initial] using prompted
        | succ n =>
          rw [← shift]
          exact attempted.prompted n other (by simpa using isOther) }

end Attempts

/-- The outcomes of the calls that are still to come. -/
def upcoming (accept : Json → Option (Except Violation α)) (reasoner : Reasoner) (n : Nat) :
    Outcome α :=
  .ofResult accept (reasoner.upcoming n)

section Asked

variable {accept : Json → Option (Except Violation α)} {reasoner after : Reasoner}
  {question : String}

theorem upcoming_of_ask (calm : reasoner.IsCalm) {reply : Reply String}
    (asked : reasoner.ask question = (reply, after)) :
    upcoming accept after = fun n => upcoming accept reasoner (n + 1) :=
  funext fun n => congrArg _ (calm.upcoming_of_ask asked n)

theorem upcoming_of_sleep {duration : Nat} {reached : Bool}
    (slept : reasoner.sleep duration = (reached, after)) :
    upcoming accept after = upcoming accept reasoner := by
  cases slept
  rfl

section Failed

variable {failure : Failure}

theorem upcoming_of_transient (asked : reasoner.ask question = (.failed failure, after))
    (passes : failure.MayPass) : upcoming accept reasoner 0 = .transient failure := by
  rw [upcoming, upcoming_zero_of_failed asked]
  exact if_pos passes

theorem upcoming_of_fatal (asked : reasoner.ask question = (.failed failure, after))
    (stays : ¬ failure.MayPass) : upcoming accept reasoner 0 = .fatal failure := by
  rw [upcoming, upcoming_zero_of_failed asked]
  exact if_neg stays

end Failed

section Answered

variable {reply : String}

theorem upcoming_of_unusable (asked : reasoner.ask question = (.answered reply, after))
    {defect : ContentDefect} (refused : readReply accept reply = .error defect) :
    upcoming accept reasoner 0 = .unusable defect := by
  rw [upcoming, upcoming_zero_of_answered asked, Outcome.ofResult_ok, refused]

theorem upcoming_of_accepted (asked : reasoner.ask question = (.answered reply, after)) {value : α}
    (accepted : readReply accept reply = .ok value) :
    upcoming accept reasoner 0 = .accepted value := by
  rw [upcoming, upcoming_zero_of_answered asked, Outcome.ofResult_ok, accepted]

end Answered

end Asked

/-- The attempts of a stage depend on the outcomes alone. The induction carries those of the attempts
before along: they determine the feedback and the metrics. -/
theorem attempted_of_attempt {stage : Stage} {base number left : Nat} {prompt : String}
    {accept : Json → Option (Except Violation α)} {feedback : Option String} {metrics : Metrics}
    {reasoner : Reasoner} {earlier : List (Outcome α)} (calm : reasoner.IsCalm)
    (prompted : Prompted prompt earlier (promptWith prompt feedback))
    (counted : metrics = metricsOf earlier) :
    ∃ last calls, Attempted stage prompt earlier (upcoming accept reasoner) (left + 1) reasoner
      (attempt stage base prompt (readReply accept) number feedback metrics left reasoner)
      last calls := by
  fun_induction attempt stage base prompt (readReply accept) number feedback metrics left reasoner
    generalizing earlier with
  | case1 =>
    rename_i asked
    exact absurd rfl (calm.ne_cancelled asked)
  | case2 =>
    rename_i failure heard asked left passes repeats later slept ih
    subst counted
    have made := (calls_of_sleep slept).trans (calm.calls_of_ask asked)
    obtain ⟨last, calls, attempted⟩ := ih ((calm.of_ask asked).of_sleep slept) (prompted.again rfl)
      (metricsOf_transient failure).symm
    rw [upcoming_of_sleep slept, upcoming_of_ask calm asked] at attempted
    have mayPass := failure.isTransient_iff.1 passes
    exact ⟨_, _, attempted.next (upcoming_of_transient asked mayPass) rfl made prompted⟩
  | case3 =>
    rename_i asked _ _ _ _ slept
    exact absurd ((calm.of_ask asked).reached slept) Bool.false_ne_true
  | case4 =>
    rename_i left _ _ _ _ _ failure heard asked final
    subst counted
    have made := calm.calls_of_ask asked
    -- a failure that may pass ends the attempts only if none is left
    by_cases passes : failure.MayPass
    · cases left with
      | zero => exact ⟨_, _, .single (upcoming_of_transient asked passes) (.inr rfl) made prompted⟩
      | succ left => exact absurd (failure.isTransient_iff.2 passes) (final left rfl)
    · exact ⟨_, _, .single (upcoming_of_fatal asked passes) (.inl rfl) made prompted⟩
  | case5 =>
    rename_i asked value accepted
    subst counted
    have made := calm.calls_of_ask asked
    exact ⟨_, _, .single (upcoming_of_accepted asked accepted) (.inl rfl) made prompted⟩
  | case6 =>
    rename_i asked defect refused left ih
    subst counted
    have made := calm.calls_of_ask asked
    obtain ⟨last, calls, attempted⟩ := ih (calm.of_ask asked) .anew
      (metricsOf_unusable defect).symm
    rw [upcoming_of_ask calm asked] at attempted
    exact ⟨_, _, attempted.next (upcoming_of_unusable asked refused) rfl made prompted⟩
  | case7 =>
    rename_i asked defect refused
    subst counted
    have made := calm.calls_of_ask asked
    exact ⟨_, _, .single (upcoming_of_unusable asked refused) (.inr rfl) made prompted⟩

/-- The course of a stage that nobody cancels, with its calls and the number of the last one, counted
from zero. -/
structure Course (stage : Stage) (budget : RetryBudget) (prompt : String)
    (outcomes : Nat → Outcome α) (done : StageRun α) (last : Nat) (calls : List (Call String)) :
    Prop where
  /-- The last call is the first with a final outcome, or that of the last attempt. -/
  stops : Stops (fun n => (outcomes n).isFinal = true) (max budget.maxAttempts 1) last
  output : done.output = (outcomes last).verdict stage
  count : calls.length = last + 1
  prompted : ∀ n, ∀ call ∈ calls[n]?, Prompted prompt (initial outcomes n) call.question
  attempts : done.metrics.attempts = last + 1
  contentRetries :
    done.metrics.contentRetries = (initial outcomes last).countP Outcome.isUnusable
  transportRetries :
    done.metrics.transportRetries = (initial outcomes last).countP Outcome.isTransient
  balanced :
    done.metrics.attempts = done.metrics.contentRetries + done.metrics.transportRetries + 1
  nothingElse : done.partialOutput = none

/-- **The course of a stage.** A stage that nobody cancels asks until an outcome is final or the
attempts are used up, and ends with the last outcome. -/
theorem course_run (stage : Stage) (budget : RetryBudget) (prompt : String)
    (accept : Json → Option (Except Violation α)) {reasoner : Reasoner} (calm : reasoner.IsCalm) :
    ∃ last calls,
      (run stage budget prompt accept reasoner).2.calls = reasoner.calls ++ calls ∧
      Course stage budget prompt (upcoming accept reasoner)
        (run stage budget prompt accept reasoner).1 last calls := by
  obtain ⟨last, calls, attempted⟩ : ∃ last calls,
      Attempted stage prompt [] (upcoming accept reasoner) (budget.maxAttempts - 1 + 1) reasoner
        (run stage budget prompt accept reasoner) last calls :=
    attempted_of_attempt calm (.plain fun _ member => absurd member List.not_mem_nil) rfl
  rw [show budget.maxAttempts - 1 + 1 = max budget.maxAttempts 1 by omega] at attempted
  have length : (initial (upcoming accept reasoner) last).length = last := by simp [initial]
  have going : ∀ outcome ∈ initial (upcoming accept reasoner) last, outcome.isFinal = false := by
    intro outcome member
    obtain ⟨n, inTime, rfl⟩ := List.mem_map.1 member
    exact Bool.eq_false_iff.2 (attempted.stops.not_isFinal (List.mem_range.1 inTime))
  refine ⟨last, calls, attempted.made, ?_⟩
  exact
    { stops := attempted.stops
      output := by rw [attempted.ended]
      count := attempted.count
      prompted := attempted.prompted
      attempts := by rw [attempted.ended]; exact congrArg (· + 1) length
      contentRetries := by rw [attempted.ended]; rfl
      transportRetries := by rw [attempted.ended]; rfl
      balanced := by
        rw [attempted.ended]
        exact congrArg (· + 1) (balanced_metricsOf going)
      nothingElse := by rw [attempted.ended] }

/-! ### A stage that is answered at last -/

/-- Accepts a truth value, and finds fault with null. -/
def acceptBit : Json → Option (Except Violation Bool)
  | .bool b => some (.ok b)
  | .null => some (.error (.outOfRange .confidence))
  | _ => none

/-- The first reply is blank, the second call is not answered in time, and the third reply is
refused. -/
def waveringReasoner : Reasoner :=
  { clock := .start
    calls := []
    answer
      | 0 => ⟨0, false, .ok " "⟩
      | 1 => ⟨0, false, .error (.timeout "")⟩
      | 2 => ⟨0, false, .ok "null"⟩
      | _ => ⟨0, false, .ok "true"⟩ }

theorem run_wavering :
    (run .strategy ⟨4, 1000⟩ "Plan." acceptBit waveringReasoner).1.output.toOption = some true ∧
      (run .strategy ⟨4, 1000⟩ "Plan." acceptBit waveringReasoner).1.metrics = ⟨4, 2, 1⟩ ∧
      (run .strategy ⟨4, 1000⟩ "Plan." acceptBit waveringReasoner).2.calls.map (·.question) =
        ["Plan.",
          "Plan.\n\nYour previous response was empty. Return valid JSON only.",
          "Plan.\n\nYour previous response was empty. Return valid JSON only.",
          "Plan.\n\n" ++ (ContentDefect.violation (.outOfRange .confidence)).feedback] := by
  decide +kernel

/-- The feedback on the blank reply is given again after the timeout, and not after the reply that
was refused. -/
theorem course_run_wavering :
    waveringReasoner.IsCalm ∧ ∃ last calls,
      calls.map (·.question) =
        ["Plan.",
          "Plan.\n\nYour previous response was empty. Return valid JSON only.",
          "Plan.\n\nYour previous response was empty. Return valid JSON only.",
          "Plan.\n\n" ++ (ContentDefect.violation (.outOfRange .confidence)).feedback] ∧
      (run .strategy ⟨4, 1000⟩ "Plan." acceptBit waveringReasoner).1.metrics = ⟨4, 2, 1⟩ ∧
      Course .strategy ⟨4, 1000⟩ "Plan." (upcoming acceptBit waveringReasoner)
        (run .strategy ⟨4, 1000⟩ "Plan." acceptBit waveringReasoner).1 last calls := by
  have calm : waveringReasoner.IsCalm := by
    refine ⟨⟨rfl, rfl⟩, fun n => ?_⟩
    rcases n with _ | _ | _ | n <;> rfl
  obtain ⟨last, calls, made, course⟩ := course_run .strategy ⟨4, 1000⟩ "Plan." acceptBit calm
  obtain ⟨-, metrics, questions⟩ := run_wavering
  rw [made, show waveringReasoner.calls = [] from rfl, List.nil_append] at questions
  exact ⟨calm, last, calls, questions, metrics, course⟩

end Stage

end PriorArt
