import PriorArt.Json.Decode

/-!
# Settings

The limits of a run: how many patents are searched for and assessed, how often a call is repeated
and how long to wait before that, and how long a disclosure may be. Durations are in milliseconds.
-/

namespace PriorArt

open Json

/-- The limits of a patent search. Reaching the greatest number of patents keeps further strategies
from being started, but lets the one in progress finish. -/
structure SearchSettings where
  maxPatents : Nat
  requestsPerMinute : Nat
  maxAttempts : Nat
  backoffBase : Nat
  maxBadRequests : Nat
  deriving DecidableEq, Inhabited

/-- The limits of a relevance assessment. -/
structure AssessmentSettings where
  maxAssessed : Nat
  batchSize : Nat
  maxAttempts : Nat
  deriving DecidableEq, Inhabited

/-- The limits of the disclosure, and of the calls of the reasoning stages. -/
structure PipelineSettings where
  maxDisclosure : Nat
  minDisclosure : Nat
  maxStageAttempts : Nat
  backoffBase : Nat
  deriving DecidableEq, Inhabited

/-- The limits of a run and of the two stages that have limits of their own. -/
structure RunSettings where
  search : SearchSettings
  assessment : AssessmentSettings
  pipeline : PipelineSettings
  deriving DecidableEq, Inhabited

namespace SearchSettings

def default : SearchSettings :=
  { maxPatents := 200
    requestsPerMinute := 45
    maxAttempts := 4
    backoffBase := 1000
    maxBadRequests := 3 }

def fields : Fields :=
  [("max_patents", []), ("requests_per_minute", []), ("max_attempts", []),
    ("backoff_base_ms", []), ("max_bad_requests", [])]

def ofRecord? (r : Record) : Option SearchSettings := do
  return {
    maxPatents := ← r.getD? "max_patents" default.maxPatents nat32?
    requestsPerMinute := ← r.getD? "requests_per_minute" default.requestsPerMinute nat32?
    maxAttempts := ← r.getD? "max_attempts" default.maxAttempts nat32?
    backoffBase := ← r.getD? "backoff_base_ms" default.backoffBase nat64?
    maxBadRequests := ← r.getD? "max_bad_requests" default.maxBadRequests nat32? }

def ofJson? (j : Json) : Option SearchSettings :=
  (record? fields j).bind ofRecord?

def toJson (s : SearchSettings) : Json :=
  .object [("max_patents", nat s.maxPatents), ("requests_per_minute", nat s.requestsPerMinute),
    ("max_attempts", nat s.maxAttempts), ("backoff_base_ms", nat s.backoffBase),
    ("max_bad_requests", nat s.maxBadRequests)]

end SearchSettings

namespace AssessmentSettings

def default : AssessmentSettings :=
  { maxAssessed := 100
    batchSize := 10
    maxAttempts := 3 }

def fields : Fields :=
  [("max_assessed", []), ("batch_size", []), ("max_attempts", [])]

def ofRecord? (r : Record) : Option AssessmentSettings := do
  return {
    maxAssessed := ← r.getD? "max_assessed" default.maxAssessed nat32?
    batchSize := ← r.getD? "batch_size" default.batchSize nat32?
    maxAttempts := ← r.getD? "max_attempts" default.maxAttempts nat32? }

def ofJson? (j : Json) : Option AssessmentSettings :=
  (record? fields j).bind ofRecord?

def toJson (s : AssessmentSettings) : Json :=
  .object [("max_assessed", nat s.maxAssessed), ("batch_size", nat s.batchSize),
    ("max_attempts", nat s.maxAttempts)]

end AssessmentSettings

namespace PipelineSettings

def default : PipelineSettings :=
  { maxDisclosure := 100000
    minDisclosure := 100
    maxStageAttempts := 3
    backoffBase := 1000 }

def fields : Fields :=
  [("max_disclosure_chars", []), ("min_disclosure_chars", []), ("max_stage_attempts", []),
    ("backoff_base_ms", [])]

def ofRecord? (r : Record) : Option PipelineSettings := do
  return {
    maxDisclosure := ← r.getD? "max_disclosure_chars" default.maxDisclosure nat32?
    minDisclosure := ← r.getD? "min_disclosure_chars" default.minDisclosure nat32?
    maxStageAttempts := ← r.getD? "max_stage_attempts" default.maxStageAttempts nat32?
    backoffBase := ← r.getD? "backoff_base_ms" default.backoffBase nat64? }

def ofJson? (j : Json) : Option PipelineSettings :=
  (record? fields j).bind ofRecord?

def toJson (s : PipelineSettings) : Json :=
  .object [("max_disclosure_chars", nat s.maxDisclosure),
    ("min_disclosure_chars", nat s.minDisclosure),
    ("max_stage_attempts", nat s.maxStageAttempts), ("backoff_base_ms", nat s.backoffBase)]

end PipelineSettings

end PriorArt
