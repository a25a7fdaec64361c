import PriorArt.Provider.Failure
import PriorArt.Violation

/-!
# Errors of a run

Why a run, or a stage of it, gave no result.
-/

namespace PriorArt

/-- The stages of a run. -/
inductive Stage where
  | strategy
  | search
  | assessment
  | landscape
  deriving DecidableEq, Inhabited

def Stage.name : Stage → String
  | .strategy => "strategy"
  | .search => "search"
  | .assessment => "assessment"
  | .landscape => "landscape"

/-- What is wrong with the text of a reply. -/
inductive ContentDefect where
  | empty
  | invalidJson
  | violation (violation : Violation)
  deriving DecidableEq

namespace ContentDefect

/-- What an error says of the reply. -/
def account : ContentDefect → String
  | .empty => "returned an empty response."
  | .invalidJson => "returned invalid JSON"
  | .violation v => "failed validation: " ++ v.message

/-- What the model is told when it is asked again. -/
def feedback : ContentDefect → String
  | .empty => "Your previous response was empty. Return valid JSON only."
  | .invalidJson => "Your previous response was not valid JSON. Return valid JSON only."
  | .violation v =>
    "Your response failed validation: " ++ v.message ++ ". Fix and return valid JSON only."

end ContentDefect

/-- What is wrong with a request. -/
inductive RequestDefect where
  | blankCaseId
  | disclosureTooShort (least : Nat)
  deriving DecidableEq

def RequestDefect.message : RequestDefect → String
  | .blankCaseId => "case_id is required."
  | .disclosureTooShort least =>
    "disclosure_text is insufficient for analysis; at least " ++ toString least ++
      " characters are required."

/-- Why a run failed. -/
inductive RunError where
  | invalidRequest (defect : RequestDefect)
  | cancelled
  | authenticationFailed
  | queryBuilderDefect (badRequests : Nat)
  | apiUnavailable (failed : Nat)
  | noQueries
  | provider (failure : Failure)
  | content (stage : Stage) (defect : ContentDefect)
  | inStage (stage : Stage) (source : RunError)
  deriving DecidableEq

namespace RunError

def message : RunError → String
  | .invalidRequest defect => "Invalid request: " ++ defect.message
  | .cancelled => "Run was cancelled."
  | .authenticationFailed =>
    "Patent search API authentication failed. Check the patent search api_key."
  | .queryBuilderDefect badRequests =>
    toString badRequests ++
      " patent search queries were rejected as malformed; the query builder is likely defective."
  | .apiUnavailable failed =>
    "Patent search API unavailable: all " ++ toString failed ++ " queries failed."
  | .noQueries => "No valid patent queries generated."
  | .provider failure => "Provider error: " ++ failure.message
  | .content stage defect => "Content error: " ++ stage.name ++ " " ++ defect.account
  | .inStage stage source => stage.name ++ " failed: " ++ source.message

def stage? : RunError → Option Stage
  | .inStage stage _ => some stage
  | _ => none

def isCancelled : RunError → Bool
  | .cancelled => true
  | .inStage _ source => source.isCancelled
  | _ => false

/-- The error tagged with a stage; a cancellation takes no tag. -/
def tagged (stage : Stage) (error : RunError) : RunError :=
  if error.isCancelled then .cancelled else .inStage stage error

end RunError

end PriorArt
