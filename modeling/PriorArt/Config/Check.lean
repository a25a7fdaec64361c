import PriorArt.Config.Basic
import PriorArt.Provider.Address

/-!
# Checks of a configuration

What may be wrong with a configuration, in the order in which it is looked for. A configuration
passes if none of it is.
-/

namespace PriorArt

/-- The outside services. -/
inductive Provider where
  | patentSearch
  | reasoning
  deriving DecidableEq

def Provider.name : Provider → String
  | .patentSearch => "patent_search"
  | .reasoning => "reasoning"

/-- The settings that must not be zero. -/
inductive Setting where
  | timeout (provider : Provider)
  | searchBackoff
  | pipelineBackoff
  | maxPatents
  | requestsPerMinute
  | searchAttempts
  | maxBadRequests
  | maxAssessed
  | batchSize
  | assessmentAttempts
  | stageAttempts
  | maxTokens
  deriving DecidableEq

def Setting.name : Setting → String
  | .timeout provider => "providers." ++ provider.name ++ ".timeout_ms"
  | .searchBackoff => "search.backoff_base_ms"
  | .pipelineBackoff => "pipeline.backoff_base_ms"
  | .maxPatents => "search.max_patents"
  | .requestsPerMinute => "search.requests_per_minute"
  | .searchAttempts => "search.max_attempts"
  | .maxBadRequests => "search.max_bad_requests"
  | .maxAssessed => "assessment.max_assessed"
  | .batchSize => "assessment.batch_size"
  | .assessmentAttempts => "assessment.max_attempts"
  | .stageAttempts => "pipeline.max_stage_attempts"
  | .maxTokens => "providers.reasoning.max_tokens"

/-- What is wrong with a configuration. -/
inductive ConfigDefect where
  | blankLogLevel
  | blankKey (provider : Provider)
  | badBase (provider : Provider)
  | blankModel
  | temperatureNotFinite
  | temperatureOutOfRange
  | zero (setting : Setting)
  | rateTooHigh
  | disclosureLimitsCrossed
  | headerNotText (provider : Provider)
  deriving DecidableEq

def mostRequestsPerMinute : Nat := 60000

def ConfigDefect.message : ConfigDefect → String
  | .blankLogLevel => "service.log_level must be non-empty."
  | .blankKey provider => "Provider " ++ provider.name ++ " api_key must be non-empty."
  | .badBase provider => "Provider " ++ provider.name ++ " api_base must be an http(s) URL."
  | .blankModel => "providers.reasoning.model must be non-empty."
  | .temperatureNotFinite => "providers.reasoning.temperature must be a finite number."
  | .temperatureOutOfRange => "providers.reasoning.temperature must be in the range 0.0-2.0."
  | .zero setting => setting.name ++ " must be greater than zero."
  | .rateTooHigh =>
    "search.requests_per_minute must be " ++ toString mostRequestsPerMinute ++ " or less."
  | .disclosureLimitsCrossed =>
    "pipeline.min_disclosure_chars must be less than pipeline.max_disclosure_chars."
  | .headerNotText provider =>
    "providers." ++ provider.name ++ ".default_headers values must be strings."

def mostTemperature : Binary64 := .ofNat 2

/-- A finite number is neither negative nor above the greatest temperature. -/
def isTemperature (x : Binary64) : Bool :=
  !x.lt .zero && !mostTemperature.lt x

def allText (headers : List (String × Json)) : Bool :=
  headers.all fun header => header.2.string?.isSome

def Config.counts (c : Config) : List (Setting × Nat) :=
  [(.timeout .patentSearch, c.patents.timeout), (.timeout .reasoning, c.reasoning.timeout),
    (.searchBackoff, c.limits.search.backoffBase),
    (.pipelineBackoff, c.limits.pipeline.backoffBase),
    (.maxPatents, c.limits.search.maxPatents),
    (.requestsPerMinute, c.limits.search.requestsPerMinute),
    (.searchAttempts, c.limits.search.maxAttempts),
    (.maxBadRequests, c.limits.search.maxBadRequests),
    (.maxAssessed, c.limits.assessment.maxAssessed),
    (.batchSize, c.limits.assessment.batchSize),
    (.assessmentAttempts, c.limits.assessment.maxAttempts),
    (.stageAttempts, c.limits.pipeline.maxStageAttempts), (.maxTokens, c.reasoning.maxTokens)]

/-- What may be wrong with a configuration, each with whether it is, in the order in which it is
looked for. -/
def Config.checks (c : Config) : List (Bool × ConfigDefect) :=
  [(Text.isBlankText c.logLevel, .blankLogLevel),
    (Text.isBlankText c.patents.key, .blankKey .patentSearch),
    (Text.isBlankText c.reasoning.key, .blankKey .reasoning),
    (!Address.isWeb c.patents.base, .badBase .patentSearch),
    (!Address.isWeb c.reasoning.base, .badBase .reasoning),
    (Text.isBlankText c.reasoning.model, .blankModel),
    (!c.reasoning.temperature.isFinite, .temperatureNotFinite),
    (!isTemperature c.reasoning.temperature, .temperatureOutOfRange)] ++
  c.counts.map (fun count => (decide (count.2 = 0), ConfigDefect.zero count.1)) ++
  [(decide (mostRequestsPerMinute < c.limits.search.requestsPerMinute), .rateTooHigh),
    (decide (c.limits.pipeline.maxDisclosure ≤ c.limits.pipeline.minDisclosure),
      .disclosureLimitsCrossed),
    (!allText c.patents.headers, .headerNotText .patentSearch),
    (!allText c.reasoning.headers, .headerNotText .reasoning)]

def Config.defect? (c : Config) : Option ConfigDefect :=
  (c.checks.find? (·.1)).map (·.2)

end PriorArt
