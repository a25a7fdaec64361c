import PriorArt.Config.Settings
import PriorArt.Text.Blank

/-!
# Configurations

What a run needs to know: the two outside services and the limits. A configuration is normalized
after it was read: there is no white space around keys, names and addresses, and no slash at the end
of an address.
-/

namespace PriorArt

open Json

/-- How the patent-search service is called. The timeout is in milliseconds. -/
structure PatentService where
  base : String
  key : String
  path : String
  timeout : Nat
  headers : List (String × Json)
  deriving Inhabited

/-- How the reasoning service is called, and with which parameters of the model. -/
structure ReasoningService where
  providerId : String
  base : String
  key : String
  path : String
  model : String
  temperature : Binary64
  maxTokens : Nat
  timeout : Nat
  headers : List (String × Json)
  deriving Inhabited

structure Config where
  logLevel : String
  patents : PatentService
  reasoning : ReasoningService
  limits : RunSettings
  deriving Inhabited

/-! ## Normal form -/

/-- An address without white space around it and then without slashes at its end. -/
def normalizedBase (base : String) : String :=
  String.ofList ((Text.trimList base.toList).reverse.dropWhile (· = '/')).reverse

def PatentService.normalize (s : PatentService) : PatentService :=
  { s with
    base := normalizedBase s.base
    key := Text.trim s.key }

def ReasoningService.normalize (s : ReasoningService) : ReasoningService :=
  { s with
    base := normalizedBase s.base
    key := Text.trim s.key
    model := Text.trim s.model }

def Config.normalize (c : Config) : Config :=
  { c with
    logLevel := Text.trim c.logLevel
    patents := c.patents.normalize
    reasoning := c.reasoning.normalize }

/-! ## JSON form -/

/-- The members of an object, each with its last value, in ascending order of their names. -/
def headers? (j : Json) : Option (List (String × Json)) :=
  match tree? j with
  | some (.object members) => some members
  | _ => none

namespace PatentService

def defaultPath : String := "/api/v1/patent/"

def fields : Fields :=
  [("api_base", []), ("api_key", []), ("path", []), ("timeout_ms", []), ("default_headers", [])]

def ofRecord? (r : Record) : Option PatentService := do
  return {
    base := ← r.get? "api_base" string?
    key := ← r.get? "api_key" string?
    path := ← r.getD? "path" defaultPath string?
    timeout := ← r.get? "timeout_ms" nat64?
    headers := ← r.getD? "default_headers" [] headers? }

def ofJson? (j : Json) : Option PatentService :=
  (record? fields j).bind ofRecord?

def toJson (s : PatentService) : Json :=
  .object [("api_base", .string s.base), ("api_key", .string s.key), ("path", .string s.path),
    ("timeout_ms", nat s.timeout), ("default_headers", .object s.headers)]

end PatentService

namespace ReasoningService

def defaultMaxTokens : Nat := 4096

def fields : Fields :=
  [("provider_id", []), ("api_base", []), ("api_key", []), ("path", []), ("model", []),
    ("temperature", []), ("max_tokens", []), ("timeout_ms", []), ("default_headers", [])]

def ofRecord? (r : Record) : Option ReasoningService := do
  return {
    providerId := ← r.get? "provider_id" string?
    base := ← r.get? "api_base" string?
    key := ← r.get? "api_key" string?
    path := ← r.get? "path" string?
    model := ← r.get? "model" string?
    temperature := ← r.get? "temperature" single?
    maxTokens := ← r.getD? "max_tokens" defaultMaxTokens nat32?
    timeout := ← r.get? "timeout_ms" nat64?
    headers := ← r.getD? "default_headers" [] headers? }

def ofJson? (j : Json) : Option ReasoningService :=
  (record? fields j).bind ofRecord?

def toJson (s : ReasoningService) : Json :=
  .object [("provider_id", .string s.providerId), ("api_base", .string s.base),
    ("api_key", .string s.key), ("path", .string s.path), ("model", .string s.model),
    ("temperature", double s.temperature), ("max_tokens", nat s.maxTokens),
    ("timeout_ms", nat s.timeout), ("default_headers", .object s.headers)]

end ReasoningService

namespace Config

def fields : Fields :=
  [("service", []), ("providers", []), ("search", []), ("assessment", []), ("pipeline", [])]

/-- A part of a configuration, which may also be written as an array. -/
def part? {α : Type} (fields : Fields) (ofRecord? : Record → Option α) (j : Json) : Option α :=
  (openRecord? fields j).bind ofRecord?

def logLevel? : Json → Option String :=
  part? [("log_level", [])] fun r => r.get? "log_level" string?

def providers? : Json → Option (PatentService × ReasoningService) :=
  part? [("patent_search", []), ("reasoning", [])] fun r => do
    return (← r.get? "patent_search" (part? PatentService.fields PatentService.ofRecord?),
      ← r.get? "reasoning" (part? ReasoningService.fields ReasoningService.ofRecord?))

def limits? (r : Record) : Option RunSettings := do
  return {
    search := ← r.getD? "search" .default (part? SearchSettings.fields SearchSettings.ofRecord?)
    assessment := ← r.getD? "assessment" .default
      (part? AssessmentSettings.fields AssessmentSettings.ofRecord?)
    pipeline := ← r.getD? "pipeline" .default
      (part? PipelineSettings.fields PipelineSettings.ofRecord?) }

def ofDocument? : Json → Option Config :=
  part? fields fun r => do
    let logLevel ← r.get? "service" logLevel?
    let (patents, reasoning) ← r.get? "providers" providers?
    return { logLevel, patents, reasoning, limits := ← limits? r }

def toJson (c : Config) : Json :=
  .object [("service", .object [("log_level", .string c.logLevel)]),
    ("patent_search", c.patents.toJson), ("reasoning", c.reasoning.toJson),
    ("search", c.limits.search.toJson), ("assessment", c.limits.assessment.toJson),
    ("pipeline", c.limits.pipeline.toJson)]

end Config

end PriorArt
