import PriorArt.Config.Basic
import PriorArt.Json.Printer
import PriorArt.Json.Reader
import PriorArt.Patent.Listing
import PriorArt.Provider.Http

/-!
# Clients of the two services

How a call of each service is worded, and what its reply means.
-/

namespace PriorArt

namespace PatentService

def client (service : PatentService) : Except Failure HttpClient :=
  (Headers.apiKey service.key service.headers).map
    (HttpClient.create (service.base ++ service.path))

def decode (text : String) : Except Failure SearchResponse :=
  match (Json.read? text).bind SearchResponse.ofJson? with
  | none => .error .unreadableBody
  | some response =>
    if response.error then .error (.errorFlag response.toJson.compact) else .ok response

end PatentService

namespace ReasoningService

open Json

def client (service : ReasoningService) : Except Failure HttpClient :=
  (Headers.bearer service.key service.headers).map
    (HttpClient.create (service.base ++ service.path))

def systemPrompt : String :=
  "You are a patent search strategist and analyst for a university technology transfer office. " ++
    "You produce conservative, structured outputs and do not invent facts. " ++
    "Return strict JSON only."

def messageJson (role content : String) : Json :=
  .object [("role", .string role), ("content", .string content)]

def body (service : ReasoningService) (prompt : String) : Json :=
  .object [("model", .string service.model), ("temperature", double service.temperature),
    ("max_tokens", nat service.maxTokens),
    ("messages", .array [messageJson "system" systemPrompt, messageJson "user" prompt])]

def choiceText? (completion : Json) : Option String := do
  let choice ← (← (← completion.member? "choices").items?).head?
  (← (← choice.member? "message").member? "content").string?

def blockText? (block : Json) : Option String := do
  let kind ← (← block.member? "type").string?
  if kind = "text" then (← block.member? "text").string? else none

def blocksText? (completion : Json) : Option String := do
  let blocks ← (← completion.member? "content").items?
  return String.join (blocks.filterMap blockText?)

def decode (text : String) : Except Failure String :=
  match (Json.read? text).bind tree? with
  | none => .error .unreadableBody
  | some completion =>
    match (choiceText? completion).or (blocksText? completion) with
    | some text => .ok text
    | none => .error (.invalidResponse "Reasoning response is missing text content.")

end ReasoningService

end PriorArt
