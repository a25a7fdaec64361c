/-!
# Failures of outside services

Why a call of an outside service gave no answer, and whether a later call may fare better.
-/

namespace PriorArt

/-- Why a call failed. -/
inductive Failure where
  | status (code : Nat) (retryAfter : Option Nat) (body : String)
  | timeout (detail : String)
  | connection (detail : String)
  | unreadableBody
  | badHeaderName
  | badHeaderValue
  | errorFlag (body : String)
  | invalidConfig (detail : String)
  | invalidResponse (detail : String)
  deriving DecidableEq, Inhabited

/-- The kinds of failure that are told apart when a call may be repeated. -/
inductive FailureClass where
  | timeout
  | rateLimited
  | server
  | client
  | other
  deriving DecidableEq, Inhabited

def FailureClass.isTransient : FailureClass → Bool
  | .timeout => true
  | .rateLimited => true
  | .server => true
  | .client => false
  | .other => false

namespace Failure

def tooManyRequests : Nat := 429
def badRequest : Nat := 400
def forbidden : Nat := 403

/-- The class of a status: 429 is a rate limit, 500 and above is the server's fault, any other from
400 on the client's. -/
def classOfStatus (code : Nat) : FailureClass :=
  if code = tooManyRequests then .rateLimited
  else if 500 ≤ code then .server
  else if 400 ≤ code then .client
  else .other

def failureClass : Failure → FailureClass
  | .status code _ _ => classOfStatus code
  | .timeout _ => .timeout
  | _ => .other

def isTransient (failure : Failure) : Bool :=
  failure.failureClass.isTransient

/-- The failure is a rate limit or the fault of the server. -/
def IsTemporary (failure : Failure) : Prop :=
  ∃ code retryAfter body, failure = .status code retryAfter body ∧ (code = 429 ∨ 500 ≤ code)

/-- The failure is temporary or a timeout, and so a later call may succeed. -/
def MayPass (failure : Failure) : Prop :=
  failure.IsTemporary ∨ ∃ detail, failure = .timeout detail

theorem isTransient_status_iff (code : Nat) (retryAfter : Option Nat) (body : String) :
    isTransient (.status code retryAfter body) = true ↔ code = 429 ∨ 500 ≤ code := by
  show (classOfStatus code).isTransient = true ↔ _
  unfold classOfStatus tooManyRequests
  by_cases limited : code = 429
  · simp [limited, FailureClass.isTransient]
  · by_cases server : 500 ≤ code
    · simp [limited, server, FailureClass.isTransient]
    · rw [if_neg limited, if_neg server]
      split <;> simp [limited, server, FailureClass.isTransient]

theorem isTransient_iff (failure : Failure) : failure.isTransient = true ↔ failure.MayPass := by
  cases failure with
  | status code retryAfter body => simp [isTransient_status_iff, MayPass, IsTemporary]
  | timeout detail => exact iff_of_true rfl (.inr ⟨detail, rfl⟩)
  | _ => exact iff_of_false Bool.false_ne_true (by simp [MayPass, IsTemporary])

instance : DecidablePred MayPass :=
  fun failure => decidable_of_iff _ failure.isTransient_iff

def status? : Failure → Option Nat
  | .status code _ _ => some code
  | _ => none

/-- The seconds that the service asked to wait. -/
def retryAfter? : Failure → Option Nat
  | .status _ retryAfter _ => retryAfter
  | _ => none

def message : Failure → String
  | .status code _ _ => "Provider returned HTTP " ++ toString code ++ "."
  | .timeout detail => "Provider request timed out: " ++ detail
  | .connection detail => detail
  | .unreadableBody => "expected value at line 1 column 1"
  | .badHeaderName => "invalid HTTP header name"
  | .badHeaderValue => "failed to parse header value"
  | .errorFlag _ => "Patent search response carried the error flag."
  | .invalidConfig detail => detail
  | .invalidResponse detail => detail

end Failure

end PriorArt
