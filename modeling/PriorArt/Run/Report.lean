import PriorArt.Run.Analysis
import PriorArt.Run.Assessment
import PriorArt.Run.Request
import PriorArt.Run.Search

/-!
# Reports

The result of a run, with the record of what the run did and decided.
-/

namespace PriorArt

/-- How much of a report there is: all of it, search results without assessments, or assessments
without a narrative. -/
inductive ReportLayout where
  | full
  | unscoredResults
  | statisticsOnly
  deriving DecidableEq, Inhabited

def ReportLayout.name : ReportLayout → String
  | .full => "full"
  | .unscoredResults => "unscored_results"
  | .statisticsOnly => "statistics_only"

/-- A decision that a run made on its own. -/
inductive TraceEntry where
  | inputTruncated (fullSize keptSize : Nat)
  | patentCapReached (strategyId : String) (maxPatents : Nat)
  | assessmentTruncated (maxAssessed : Nat)
  | foreignAssessmentsDropped (count : Nat)
  | fallbackAssessments (count : Nat)
  | stageDegraded (stage : Stage) (layout : ReportLayout) (error : RunError)
  | narrativeCorrected (correction : Correction)
  | fallbackDetermination (determination : Determination)
  deriving DecidableEq

/-- The record of a run. -/
structure Metadata where
  model : String
  duration : Nat
  inputTruncated : Bool
  degradedReason : Option String
  stagesExecuted : List Stage
  stagesFailed : List Stage
  stageAttempts : List (Stage × Metrics)
  apiCalls : Nat
  patentsRetrieved : Nat
  patentsAssessed : Nat
  abstractsMissing : Nat
  assessmentTruncated : Bool
  assessedNone : Nat
  fallbackAssessments : Nat
  foreignAssessmentsDropped : Nat
  deriving DecidableEq, Inhabited

def Metadata.degraded (metadata : Metadata) : Bool :=
  metadata.degradedReason.isSome

/-- The result of a run. -/
structure Report where
  request : Request
  strategy : StrategyDocument
  search : SearchOutcome
  assessment : Option AssessmentOutcome
  landscape : Option Narrative
  stats : Statistics
  determination : Determination
  layout : ReportLayout
  metadata : Metadata
  trace : List TraceEntry
  deriving DecidableEq

/-! ## JSON form -/

open Json

def TraceEntry.toJson : TraceEntry → Json
  | .inputTruncated fullSize keptSize =>
    .object [("event", .string "input_truncated"), ("original_chars", nat fullSize),
      ("kept_chars", nat keptSize)]
  | .patentCapReached strategyId maxPatents =>
    .object [("event", .string "patent_cap_reached"), ("strategy_id", .string strategyId),
      ("max_patents", nat maxPatents)]
  | .assessmentTruncated maxAssessed =>
    .object [("event", .string "assessment_truncated"), ("max_assessed", nat maxAssessed)]
  | .foreignAssessmentsDropped count =>
    .object [("event", .string "foreign_assessments_dropped"), ("count", nat count)]
  | .fallbackAssessments count =>
    .object [("event", .string "fallback_assessments"), ("count", nat count)]
  | .stageDegraded stage layout error =>
    .object [("event", .string "stage_degraded"), ("stage", .string stage.name),
      ("layout", .string layout.name), ("error", .string error.message)]
  | .narrativeCorrected correction =>
    .object [("event", .string "narrative_corrected"), ("correction", correction.toJson)]
  | .fallbackDetermination determination =>
    .object [("event", .string "fallback_determination"),
      ("determination", .string determination.name)]

def Metadata.toJson (m : Metadata) : Json :=
  .object [("model", .string m.model), ("duration_ms", nat m.duration),
    ("input_truncated", .bool m.inputTruncated), ("degraded", .bool m.degraded),
    ("degraded_reason", orNull .string m.degradedReason),
    ("stages_executed", strings (m.stagesExecuted.map (·.name))),
    ("stages_failed", strings (m.stagesFailed.map (·.name))),
    ("stage_attempts", .object (m.stageAttempts.map fun row => (row.1.name, row.2.toJson))),
    ("api_calls", nat m.apiCalls), ("patents_retrieved", nat m.patentsRetrieved),
    ("patents_assessed", nat m.patentsAssessed), ("abstracts_missing", nat m.abstractsMissing),
    ("assessment_truncated", .bool m.assessmentTruncated),
    ("assessed_none", nat m.assessedNone), ("fallback_assessments", nat m.fallbackAssessments),
    ("foreign_assessments_dropped", nat m.foreignAssessmentsDropped)]

def Report.toJson (r : Report) : Json :=
  .object [("request", r.request.toJson), ("strategy", r.strategy.toJson),
    ("search", r.search.toJson), ("assessment", orNull (·.toJson) r.assessment),
    ("landscape", orNull (·.toJson) r.landscape), ("stats", r.stats.toJson),
    ("determination", .string r.determination.name), ("layout", .string r.layout.name),
    ("metadata", r.metadata.toJson), ("trace", .array (r.trace.map (·.toJson)))]

end PriorArt
