import PriorArt.Config.Settings
import PriorArt.Patent.Listing
import PriorArt.Patent.Order
import PriorArt.Query.Plan
import PriorArt.Run.Error
import PriorArt.Run.Gate
import PriorArt.Run.Session

/-!
# The patent search

The queries of the plan are sent one after the other, spaced by the rate gate, and each is repeated
while its failure may pass. The patents found are merged by identifier in the order of their first
appearance, up to a cap. The search is given up when the service refuses the credentials, when too
many queries are rejected, and when every query failed.
-/

namespace PriorArt

/-- What a search found, and what it took. -/
structure SearchOutcome where
  queries : List PlannedQuery
  patents : List PatentRecord
  totalHits : List (String × Nat)
  planned : Nat
  executed : Nat
  failed : Nat
  apiCalls : Nat
  retries : Nat
  capReachedBy : Option String
  deriving DecidableEq, Inhabited

namespace Search

/-- A session with the patent-search service. -/
abbrev Service := Session TextQuery SearchResponse

/-! ## One query -/

/-- The last result of a query, and the number of calls it took. -/
structure QueryResult where
  result : Except Failure SearchResponse
  attempts : Nat

def millisPerSecond : Nat := 1000

/-- The wait after a failed attempt with a number, counted from one, unless the failure is final. A
rate limit may name its own wait, and only the first timeout of a query is not final. -/
def retryDelay? (base attempt : Nat) (timedOut : Bool) (failure : Failure) : Option Nat :=
  match failure.failureClass with
  | .rateLimited =>
    match failure.retryAfter? with
    | some (seconds + 1) => some ((seconds + 1) * millisPerSecond)
    | _ => some (backoffDelay base attempt)
  | .server => some (backoffDelay base attempt)
  | .timeout => if timedOut then none else some (backoffDelay base attempt)
  | .client => none
  | .other => none

/-- Sends a query for the attempt with a number and, while failures pass, for as many more attempts
as are left. There is no result if the run is cancelled. -/
def attempt (base : Nat) (query : TextQuery) (number : Nat) (timedOut : Bool) (left : Nat)
    (service : Service) : Option QueryResult × Service :=
  match service.ask query with
  | (.cancelled, service) => (none, service)
  | (.answered response, service) => (some ⟨.ok response, number⟩, service)
  | (.failed failure, service) =>
    match left, retryDelay? base number timedOut failure with
    | left + 1, some delay =>
      match service.sleep delay with
      | (true, service) =>
        attempt base query (number + 1) (timedOut || failure.failureClass = .timeout) left service
      | (false, service) => (none, service)
    | _, _ => (some ⟨.error failure, number⟩, service)

/-- Sends a query until it succeeds, its failure is final or its attempts are used up. -/
def send (settings : SearchSettings) (query : TextQuery) (service : Service) :
    Option QueryResult × Service :=
  attempt settings.backoffBase query 1 false (settings.maxAttempts - 1) service

/-! ## Merging -/

/-- Notes that a query returned the patent. -/
def matchedBy (query : String) (patent : PatentRecord) : PatentRecord :=
  if patent.matchedQueries.contains query then patent
  else { patent with matchedQueries := patent.matchedQueries ++ [query] }

/-- Merges one row of the answer to a query into the patents found so far. A patent beyond the cap
is left out, and so is a row without an identifier. -/
def merge (cap : Nat) (query : String) (found : List PatentRecord) (row : Listing) :
    List PatentRecord :=
  let patent := row.record
  if patent.id.isEmpty then found
  else if found.any (·.id = patent.id) then
    found.map fun p => if p.id = patent.id then matchedBy query p else p
  else if cap ≤ found.length then found
  else found ++ [{ patent with matchedQueries := [query] }]

/-- The strategy of the query with an identifier: of the last one in the plan, if several have
it. -/
def owner (plan : List PlannedQuery) (query : String) : String :=
  plan.foldl (fun found item => if item.id = query then item.strategyId else found) query

def strategyCount (plan : List PlannedQuery) (patent : PatentRecord) : Nat :=
  (patent.matchedQueries.map (owner plan)).eraseDups.length

/-! ## The plan -/

/-- What the queries sent so far brought. -/
structure Progress where
  found : List PatentRecord
  totalHits : List (String × Nat)
  executed : Nat
  failed : Nat
  badRequests : Nat
  apiCalls : Nat
  retries : Nat
  capReachedBy : Option String

def Progress.empty : Progress := ⟨[], [], 0, 0, 0, 0, 0, none⟩

def Progress.counted (progress : Progress) (attempts : Nat) : Progress :=
  { progress with
    apiCalls := progress.apiCalls + attempts
    retries := progress.retries + (attempts - 1) }

/-- The answer to a query is merged. The strategy of the query that fills the cap is noted. -/
def Progress.succeed (progress : Progress) (cap : Nat) (item : PlannedQuery)
    (response : SearchResponse) : Progress :=
  let found := response.listings.foldl (merge cap item.id) progress.found
  { progress with
    found
    executed := progress.executed + 1
    totalHits := Keyed.insert item.id response.totalHits progress.totalHits
    capReachedBy :=
      if progress.capReachedBy.isNone && cap ≤ found.length then some item.strategyId
      else progress.capReachedBy }

/-- The failure of a query is counted. Refused credentials end the search, and so does a rejected
query when there were enough of them. -/
def Progress.fail (progress : Progress) (maxBadRequests : Nat) (failure : Failure) :
    Except RunError Progress :=
  let progress := { progress with failed := progress.failed + 1 }
  if failure.status? = some Failure.forbidden then .error .authenticationFailed
  else if failure.status? = some Failure.badRequest then
    let badRequests := progress.badRequests + 1
    if maxBadRequests ≤ badRequests then .error (.queryBuilderDefect badRequests)
    else .ok { progress with badRequests }
  else .ok progress

/-- A query is left out if the cap was reached by another strategy than its own. -/
def Progress.isClosedTo (progress : Progress) (item : PlannedQuery) : Bool :=
  match progress.capReachedBy with
  | some strategy => strategy ≠ item.strategyId
  | none => false

/-- Sends the queries of a plan, each when the gate allows. -/
def sendAll (settings : SearchSettings) (gate : Gate) (progress : Progress) :
    List PlannedQuery → Service → Except RunError Progress × Service
  | [], service => (.ok progress, service)
  | item :: rest, service =>
    if progress.isClosedTo item then (.ok progress, service)
    else
      match gate.acquire service.clock with
      | (false, _, clock) => (.error .cancelled, { service with clock })
      | (true, gate, clock) =>
        match send settings item.query { service with clock } with
        | (none, service) => (.error .cancelled, service)
        | (some ⟨.ok response, attempts⟩, service) =>
          let progress := (progress.counted attempts).succeed settings.maxPatents item response
          sendAll settings gate progress rest service
        | (some ⟨.error failure, attempts⟩, service) =>
          match (progress.counted attempts).fail settings.maxBadRequests failure with
          | .error error => (.error error, service)
          | .ok progress => sendAll settings gate progress rest service

/-- The outcome of a search whose queries have all been sent or left out. -/
def conclude (plan : List PlannedQuery) (progress : Progress) : Except RunError SearchOutcome :=
  if progress.failed = plan.length then .error (.apiUnavailable progress.failed)
  else
    let patents := progress.found.map fun p => { p with strategyCount := strategyCount plan p }
    .ok
      { queries := plan
        patents := PatentRecord.sortByGrantDate patents
        totalHits := progress.totalHits
        planned := plan.length
        executed := progress.executed
        failed := progress.failed
        apiCalls := progress.apiCalls
        retries := progress.retries
        capReachedBy := progress.capReachedBy }

def run (settings : SearchSettings) (strategies : List SearchStrategy) (service : Service) :
    Except RunError SearchOutcome × Service :=
  match Plan.ofStrategies strategies with
  | [] => (.error .noQueries, service)
  | plan =>
    let gate := Gate.opening settings.requestsPerMinute service.clock.now
    match sendAll settings gate .empty plan service with
    | (.error error, service) => (.error error, service)
    | (.ok progress, service) => (conclude plan progress, service)

end Search

/-! ## JSON form -/

open Json

def SearchOutcome.toJson (o : SearchOutcome) : Json :=
  .object [("queries", .array (o.queries.map (·.toJson))),
    ("patents", .array (o.patents.map (·.toJson))),
    ("total_hits_by_query", .object (o.totalHits.map fun row => (row.1, nat row.2))),
    ("queries_planned", nat o.planned), ("queries_executed", nat o.executed),
    ("queries_failed", nat o.failed), ("total_api_calls", nat o.apiCalls),
    ("retries", nat o.retries), ("cap_reached_by", orNull .string o.capReachedBy)]

end PriorArt
