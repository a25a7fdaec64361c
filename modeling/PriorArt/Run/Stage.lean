import PriorArt.Json.Reader
import PriorArt.Run.Error
import PriorArt.Run.Gate
import PriorArt.Run.Session
import PriorArt.Text.Fence

/-!
# Reasoning stages

A stage asks the reasoning service until it accepts a reply. A reply that cannot be used is
answered by a new prompt that says what was wrong with it; a failure of the service that may pass
is answered by the same prompt after a wait. Both draw on one budget of attempts.
-/

namespace PriorArt

/-- How many calls a stage made, and why it made more than one. -/
structure Metrics where
  attempts : Nat
  contentRetries : Nat
  transportRetries : Nat
  deriving DecidableEq, Inhabited

def Metrics.zero : Metrics := ⟨0, 0, 0⟩

namespace Metrics

def attempted (m : Metrics) : Metrics := { m with attempts := m.attempts + 1 }

def repeatedForContent (m : Metrics) : Metrics :=
  { m with contentRetries := m.contentRetries + 1 }

def repeatedForTransport (m : Metrics) : Metrics :=
  { m with transportRetries := m.transportRetries + 1 }

end Metrics

/-- How a stage ended: with an output or an error, after so many calls. A stage that failed may
leave what it had counted until then. -/
structure StageRun (α : Type) where
  output : Except RunError α
  metrics : Metrics
  partialOutput : Option α

/-- A session with the reasoning service. -/
abbrev Reasoner := Session String String

/-- The attempts of a stage, and the wait in milliseconds from which later waits are doubled. -/
structure RetryBudget where
  maxAttempts : Nat
  backoffBase : Nat
  deriving DecidableEq, Inhabited

namespace Stage

/-- A prompt followed by feedback on the last reply that could not be used, if there was one. -/
def promptWith (prompt : String) : Option String → String
  | none => prompt
  | some feedback => prompt ++ "\n\n" ++ feedback

/-- What a reply brings: its text without fences has to be JSON that `accept` can decode and finds
nothing wrong with. -/
def readReply {α : Type} (accept : Json → Option (Except Violation α)) (reply : String) :
    Except ContentDefect α :=
  let text := Text.unfence reply
  if text.isEmpty then .error .empty
  else
    match (Json.read? text).bind accept with
    | none => .error .invalidJson
    | some (.error violation) => .error (.violation violation)
    | some (.ok value) => .ok value

/-- Asks for the attempt with a number, counted from one, and as long as attempts are left asks
again. -/
def attempt {α : Type} (stage : Stage) (base : Nat) (prompt : String)
    (read : String → Except ContentDefect α) (number : Nat) (feedback : Option String)
    (metrics : Metrics) (left : Nat) (reasoner : Reasoner) : StageRun α × Reasoner :=
  let metrics := metrics.attempted
  match reasoner.ask (promptWith prompt feedback) with
  | (.cancelled, reasoner) => (⟨.error .cancelled, metrics, none⟩, reasoner)
  | (.failed failure, reasoner) =>
    match left, failure.isTransient with
    | left + 1, true =>
      let metrics := metrics.repeatedForTransport
      match reasoner.sleep (backoffDelay base number) with
      | (true, reasoner) =>
        attempt stage base prompt read (number + 1) feedback metrics left reasoner
      | (false, reasoner) => (⟨.error .cancelled, metrics, none⟩, reasoner)
    | _, _ => (⟨.error (.provider failure), metrics, none⟩, reasoner)
  | (.answered reply, reasoner) =>
    match read reply with
    | .ok value => (⟨.ok value, metrics, none⟩, reasoner)
    | .error defect =>
      match left with
      | left + 1 =>
        attempt stage base prompt read (number + 1) (some defect.feedback)
          metrics.repeatedForContent left reasoner
      | 0 => (⟨.error (.content stage defect), metrics, none⟩, reasoner)

/-- Asks until a reply is accepted, a failure is final or the attempts are used up. There is always
at least one attempt. -/
def run {α : Type} (stage : Stage) (budget : RetryBudget) (prompt : String)
    (accept : Json → Option (Except Violation α)) (reasoner : Reasoner) :
    StageRun α × Reasoner :=
  attempt stage budget.backoffBase prompt (readReply accept) 1 none .zero (budget.maxAttempts - 1)
    reasoner

end Stage

/-! ## JSON form -/

open Json

def Metrics.toJson (m : Metrics) : Json :=
  .object [("attempts", nat m.attempts), ("content_retries", nat m.contentRetries),
    ("transport_retries", nat m.transportRetries)]

end PriorArt
