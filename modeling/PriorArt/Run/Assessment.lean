import PriorArt.Config.Settings
import PriorArt.Patent.Order
import PriorArt.Prompt.Assessment
import PriorArt.Run.Stage

/-!
# The relevance assessment

The patents with an abstract are put in order, cut to the greatest number that is assessed, and
assessed in batches. A batch is asked for again while members of it are missing from the reply and
attempts are left; members missing from the last reply get a stand-in without relevance. Patents
without relevance are not reported.
-/

namespace PriorArt

/-- What the assessment brought, and how many patents it concerned. -/
structure AssessmentOutcome where
  assessments : List Assessment
  abstractsMissing : Nat
  truncated : Bool
  assessedNone : Nat
  foreignDropped : Nat
  fallbacks : Nat
  batches : Nat
  deriving DecidableEq, Inhabited

namespace Assess

/-- What is counted over all batches: the calls, the entries for patents outside their batch, and
the stand-ins. -/
structure Counts where
  metrics : Metrics
  foreignDropped : Nat
  fallbacks : Nat
  deriving DecidableEq, Inhabited

def Counts.zero : Counts := ⟨.zero, 0, 0⟩

def replyOfJson? (reply : Json) : Option (List Assessment) := do
  let r ← Json.record? [("assessments", [])] reply
  r.getD? "assessments" [] (Json.list? Assessment.ofJson?)

def readReply? (reply : String) : Option (List Assessment) :=
  (Json.read? (Text.unfence reply)).bind replyOfJson?

def missingFeedback (missing : List String) : String :=
  "Your previous response omitted assessments for: " ++ ", ".intercalate missing ++
    ". Return one assessment for every patent."

/-- The sanitized assessments by the identifiers of members of the batch, the last one for each. -/
def accepted (known members : List String) (entries : List Assessment) :
    List (String × Assessment) :=
  Keyed.ofList
    ((entries.filter fun a => members.contains (Text.trim a.patentId)).map fun a =>
      (Text.trim a.patentId, a.sanitize known))

/-- The assessment of each member of the batch, and the number of stand-ins. An assessment is used
for one member only. -/
def assign (accepted : List (String × Assessment)) : List String → List Assessment × Nat
  | [] => ([], 0)
  | id :: rest =>
    match accepted.lookup id with
    | some a =>
      let (assigned, fallbacks) := assign (accepted.filter fun entry => entry.1 ≠ id) rest
      (a :: assigned, fallbacks)
    | none =>
      let (assigned, fallbacks) := assign accepted rest
      (Assessment.fallback id :: assigned, fallbacks + 1)

/-- Asks for a batch for the attempt with a number, counted from one, and as long as attempts are
left asks again. -/
def attempt (base : Nat) (known members : List String) (prompt : String)
    (read : String → Option (List Assessment)) (number : Nat) (feedback : Option String)
    (counts : Counts) (left : Nat) (reasoner : Reasoner) :
    Except RunError (List Assessment) × Counts × Reasoner :=
  let counts := { counts with metrics := counts.metrics.attempted }
  match reasoner.ask (Stage.promptWith prompt feedback) with
  | (.cancelled, reasoner) => (.error .cancelled, counts, reasoner)
  | (.failed failure, reasoner) =>
    match left, failure.isTransient with
    | left + 1, true =>
      let counts := { counts with metrics := counts.metrics.repeatedForTransport }
      match reasoner.sleep (backoffDelay base number) with
      | (true, reasoner) =>
        attempt base known members prompt read (number + 1) feedback counts left reasoner
      | (false, reasoner) => (.error .cancelled, counts, reasoner)
    | _, _ => (.error (.provider failure), counts, reasoner)
  | (.answered reply, reasoner) =>
    match read reply with
    | none =>
      match left with
      | left + 1 =>
        attempt base known members prompt read (number + 1)
          (some ContentDefect.invalidJson.feedback)
          { counts with metrics := counts.metrics.repeatedForContent } left reasoner
      | 0 => (.error (.content .assessment .invalidJson), counts, reasoner)
    | some entries =>
      let foreign := entries.countP fun a => !members.contains (Text.trim a.patentId)
      let counts := { counts with foreignDropped := counts.foreignDropped + foreign }
      let accepted := accepted known members entries
      let missing := members.filter fun id => (accepted.lookup id).isNone
      match left, missing.isEmpty with
      | left + 1, false =>
        attempt base known members prompt read (number + 1) (some (missingFeedback missing))
          { counts with metrics := counts.metrics.repeatedForContent } left reasoner
      | _, _ =>
        let (assigned, fallbacks) := assign accepted members
        (.ok assigned, { counts with fallbacks := counts.fallbacks + fallbacks }, reasoner)

/-- Assesses batch after batch. The number of batches that were begun counts up. -/
def assessBatches (document : StrategyDocument) (settings : AssessmentSettings) (base : Nat)
    (begun : Nat) (counts : Counts) :
    List (List PatentRecord) → Reasoner →
      Except RunError (List Assessment) × Nat × Counts × Reasoner
  | [], reasoner => (.ok [], begun, counts, reasoner)
  | batch :: rest, reasoner =>
    match attempt base document.elementIds (batch.map (·.id)) (Prompt.assessment document batch)
        readReply? 1 none counts (settings.maxAttempts - 1) reasoner with
    | (.error error, counts, reasoner) => (.error error, begun + 1, counts, reasoner)
    | (.ok assigned, counts, reasoner) =>
      match assessBatches document settings base (begun + 1) counts rest reasoner with
      | (.error error, begun, counts, reasoner) => (.error error, begun, counts, reasoner)
      | (.ok others, begun, counts, reasoner) => (.ok (assigned ++ others), begun, counts, reasoner)

/-- Consecutive parts of a list, all but the last of the given size. A size of zero counts as
one. -/
def chunks {α : Type} (size : Nat) : List α → List (List α)
  | [] => []
  | item :: rest => (item :: rest.take (size - 1)) :: chunks size (rest.drop (size - 1))
termination_by items => items.length
decreasing_by simp only [List.length_drop, List.length_cons]; omega

theorem flatten_chunks {α : Type} (size : Nat) (items : List α) :
    (chunks size items).flatten = items := by
  fun_induction chunks size items with
  | case1 => rfl
  | case2 item rest ih => simp [ih]

theorem nil_not_mem_chunks {α : Type} (size : Nat) (items : List α) : [] ∉ chunks size items := by
  fun_induction chunks size items with
  | case1 => simp
  | case2 item rest ih => simp [ih]

theorem length_le_of_mem_chunks {α : Type} {size : Nat} (h : 0 < size) (items : List α) :
    ∀ part ∈ chunks size items, part.length ≤ size := by
  fun_induction chunks size items with
  | case1 => simp
  | case2 item rest ih =>
    intro part hp
    rcases List.mem_cons.1 hp with rfl | hp
    · simp only [List.length_cons, List.length_take]; omega
    · exact ih part hp

/-- The grant date of the patent with an identifier: of the last one, if several have it. -/
def grantDate (patents : List PatentRecord) (id : String) : String :=
  patents.foldl (fun date patent => if patent.id = id then patent.grantDate else date) ""

def run (settings : AssessmentSettings) (base : Nat) (document : StrategyDocument)
    (patents : List PatentRecord) (reasoner : Reasoner) : StageRun AssessmentOutcome × Reasoner :=
  let withAbstract := patents.filter (·.hasAbstract)
  let candidates := (PatentRecord.sortForAssessment withAbstract).take settings.maxAssessed
  let outcome (batches : Nat) (counts : Counts) : AssessmentOutcome :=
    { assessments := []
      abstractsMissing := patents.length - withAbstract.length
      truncated := settings.maxAssessed < withAbstract.length
      assessedNone := 0
      foreignDropped := counts.foreignDropped
      fallbacks := counts.fallbacks
      batches }
  match assessBatches document settings base 0 .zero (chunks settings.batchSize candidates)
      reasoner with
  | (.error error, batches, counts, reasoner) =>
    (⟨.error error, counts.metrics, some (outcome batches counts)⟩, reasoner)
  | (.ok assessments, batches, counts, reasoner) =>
    let kept := assessments.filter (·.relevance ≠ .none)
    (⟨.ok
        { outcome batches counts with
          assessments := Assessment.sortForOutput (grantDate candidates) kept
          assessedNone := assessments.length - kept.length },
      counts.metrics, none⟩, reasoner)

end Assess

/-! ## JSON form -/

open Json

def AssessmentOutcome.toJson (o : AssessmentOutcome) : Json :=
  .object [("assessments", .array (o.assessments.map (·.toJson))),
    ("abstracts_missing", nat o.abstractsMissing), ("truncated", .bool o.truncated),
    ("assessed_none", nat o.assessedNone), ("foreign_dropped", nat o.foreignDropped),
    ("fallbacks", nat o.fallbacks), ("batches", nat o.batches)]

end PriorArt
