import PriorArt.Config.Load
import PriorArt.Provider.Client
import PriorArt.Run.Inquiry

/-!
# The command

The command loads a configuration, reads a disclosure and perhaps the findings of an earlier screen,
and makes an inquiry of them over HTTP.
-/

namespace PriorArt.CommandLine

/-- Why a file has no text, by the name of its kind. -/
structure FileFault where
  kind : String
  deriving DecidableEq

/-- What a command reads: the texts of its files. There is none for a configuration that cannot be
read. -/
structure Inputs where
  config : Option String
  disclosure : Except FileFault String
  priorContext : Option (Except FileFault String)
  caseId : String

/-- Why a command has no report. -/
inductive CommandError where
  | config (error : ConfigError)
  | file (fault : FileFault)
  | badPriorContext
  | run (error : RunError)

/-- An inquiry that is ready to be made. -/
structure Job where
  config : Config
  request : Request
  reasoningClient : HttpClient
  searchClient : HttpClient

def Inputs.request (inputs : Inputs) : Except CommandError Request := do
  let disclosure ← inputs.disclosure.mapError CommandError.file
  let priorContext ←
    match inputs.priorContext with
    | none => pure none
    | some file =>
      let text ← file.mapError CommandError.file
      match (Json.read? text).bind PriorContext.ofJson? with
      | some context => pure (some context)
      | none => .error .badPriorContext
  return { caseId := inputs.caseId, disclosure, priorContext }

namespace Job

def prepareWith (config : Config) (inputs : Inputs) : Except CommandError Job := do
  let request ← inputs.request
  let clientFault (failure : Failure) : CommandError := .run (.provider failure)
  let reasoningClient ← config.reasoning.client.mapError clientFault
  let searchClient ← config.patents.client.mapError clientFault
  return { config, request, reasoningClient, searchClient }

def prepare (inputs : Inputs) : Except CommandError Job := do
  let config ← (Config.load inputs.config).mapError CommandError.config
  prepareWith config inputs

/-- The services behind two sequences of replies, one for each. -/
def services (job : Job) (reasoning search : Nat → HttpReply) : Services :=
  let answer {α : Type} (client : HttpClient) (decode : String → Except Failure α)
      (reply : HttpReply) : Answer α :=
    { delay := 0
      cancels := false
      result := (client.answer reply).bind decode }
  { model := job.config.reasoning.model
    reason := fun n => answer job.reasoningClient ReasoningService.decode (reasoning n)
    search := fun n => answer job.searchClient PatentService.decode (search n) }

def run (job : Job) (reasoning search : Nat → HttpReply) : Inquiry :=
  Inquiry.run job.config.limits job.request (job.services reasoning search) .start

def reasoningRequests (job : Job) (inquiry : Inquiry) : List HttpRequest :=
  inquiry.reasonerCalls.filterMap fun call =>
    (job.reasoningClient.request (job.config.reasoning.body call.question)).toOption

def searchRequests (job : Job) (inquiry : Inquiry) : List HttpRequest :=
  inquiry.searchCalls.filterMap fun call =>
    (job.searchClient.request call.question.body).toOption

end Job

end PriorArt.CommandLine
