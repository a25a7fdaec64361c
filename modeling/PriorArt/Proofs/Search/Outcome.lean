import Mathlib.Data.List.Permutation
import PriorArt.Proofs.Query.Identifiers
import PriorArt.Proofs.Search.Answers
import PriorArt.Proofs.Search.Trail

/-!
# The outcome of a search

1. Along a trail, what was found stays what the answers so far make of it (`Trail.merged`).
2. The strategy of the query whose answer fills the cap is noted, and from then on only its own
   queries are sent (`Trail.cap_filled`).
3. The outcome of a search is what the answers of the queries sent make of it, in the order of the
   grant dates, and the queries sent are the plan up to the cap (`patents_run`).
-/

namespace PriorArt

/-! ## The order of the outcome -/

/-- The patent was granted later, or on the same day with the smaller identifier. -/
def PatentRecord.Precedes (a b : PatentRecord) : Prop :=
  b.grantDate < a.grantDate ∨ a.grantDate = b.grantDate ∧ a.id < b.id

namespace PatentRecord

theorem precedes_of_isLE_byGrantDate {a b : PatentRecord} (h : (byGrantDate a b).isLE = true)
    (differs : a.id ≠ b.id) : a.Precedes b := by
  unfold byGrantDate compareLex at h
  rw [Ordering.isLE_then_iff_or] at h
  rcases h with later | ⟨sameDay, below⟩
  · exact .inl (compareOfLessAndEq_eq_lt.1 later)
  · refine .inr ⟨(Std.compare_eq_iff_eq.1 sameDay).symm, ?_⟩
    rcases Ordering.isLE_iff_eq_lt_or_eq_eq.1 below with below | same
    · exact compareOfLessAndEq_eq_lt.1 below
    · exact absurd (Std.compare_eq_iff_eq.1 same) differs

theorem pairwise_sortByGrantDate {patents : List PatentRecord}
    (distinct : (patents.map (·.id)).Nodup) :
    (sortByGrantDate patents).Pairwise Precedes := by
  have differ : (sortByGrantDate patents).Pairwise fun a b => a.id ≠ b.id := by
    rw [← List.pairwise_map]
    exact ((perm_sortBy byGrantDate patents).map (·.id)).nodup_iff.2 distinct
  refine ((pairwise_sortBy byGrantDate patents).and differ).imp fun h => ?_
  exact precedes_of_isLE_byGrantDate h.1 h.2

end PatentRecord

namespace Search

open Answers

variable {settings : SearchSettings}

/-! ## The answers of a log -/

/-- The answers that the queries of a log got. -/
def answered (log : Log) : Answers :=
  log.filterMap fun entry =>
    match entry.2.result with
    | .ok response => some (entry.1, response)
    | .error _ => none

@[simp] theorem answered_nil : answered [] = [] := rfl

@[simp] theorem answered_append (log others : Log) :
    answered (log ++ others) = answered log ++ answered others :=
  List.filterMap_append

@[simp] theorem answered_cons_error (item : PlannedQuery) (failure : Failure) (attempts : Nat)
    (log : Log) : answered ((item, ⟨.error failure, attempts⟩) :: log) = answered log := rfl

theorem mem_of_mem_answered {log : Log} {item : PlannedQuery} {response : SearchResponse}
    (h : (item, response) ∈ answered log) : item ∈ log.map (·.1) := by
  obtain ⟨⟨query, reply | reply, attempts⟩, member, form⟩ := List.mem_filterMap.1 h
  · cases form
  · cases form
    exact List.mem_map_of_mem member

theorem mem_of_mem_naming {log : Log} {item : PlannedQuery} {id : String}
    (h : item ∈ (answered log).naming id) : item ∈ log.map (·.1) := by
  obtain ⟨response, inAnswers, -⟩ := mem_naming.1 h
  exact mem_of_mem_answered inAnswers

theorem Step.merged {stand next : Stand} {entry : PlannedQuery × QueryResult}
    (step : Step settings stand entry next) {answers : Answers}
    (h : Merged settings.maxPatents answers stand.progress.found) :
    Merged settings.maxPatents (answers ++ answered [entry]) next.progress.found := by
  obtain ⟨item, result⟩ := entry
  rcases Progress.note_eq_ok step.noted with
    ⟨response, attempts, rfl, form⟩ | ⟨failure, attempts, badRequests, rfl, form⟩
  · rw [form]
    exact h.answer item response
  · rw [form, answered_cons_error, answered_nil, List.append_nil]
    exact h

theorem Trail.merged {stand last : Stand} {log : Log} (trail : Trail settings stand log last) :
    ∀ {answers : Answers}, Merged settings.maxPatents answers stand.progress.found →
      Merged settings.maxPatents (answers ++ answered log) last.progress.found := by
  induction trail with
  | nil stand => intro answers h; simpa using h
  | @cons stand next last entry log step _ ih =>
    intro answers h
    rw [← List.singleton_append, answered_append, ← List.append_assoc]
    exact ih (step.merged h)

theorem Trail.merged_found {gate : Gate} {service : Service} {last : Stand} {log : Log}
    (trail : Trail settings ⟨gate, .empty, service⟩ log last) :
    Merged settings.maxPatents (answered log) last.progress.found := by
  simpa using trail.merged (Merged.nil _)

/-! ## The cap -/

theorem Progress.strategyId_of_capped {progress : Progress} {item : PlannedQuery}
    {strategy : String} (capped : progress.capReachedBy = some strategy)
    (isOpen : progress.isClosedTo item = false) : item.strategyId = strategy := by
  unfold Progress.isClosedTo at isOpen
  rw [capped] at isOpen
  exact (not_not.1 (of_decide_eq_false isOpen)).symm

/-- The strategy that reached the cap is noted for good. -/
theorem Step.cap_kept {stand next : Stand} {entry : PlannedQuery × QueryResult}
    (step : Step settings stand entry next) {strategy : String}
    (capped : stand.progress.capReachedBy = some strategy) :
    next.progress.capReachedBy = some strategy := by
  rcases Progress.note_eq_ok step.noted with ⟨_, _, -, form⟩ | ⟨_, _, _, -, form⟩
  · simp [form, Progress.succeed, Progress.counted, capped]
  · simp [form, Progress.counted, capped]

/-- Once the cap is reached, only queries of the strategy that reached it are sent. -/
theorem Trail.cap_kept {stand last : Stand} {log : Log} (trail : Trail settings stand log last)
    {strategy : String} (capped : stand.progress.capReachedBy = some strategy) :
    last.progress.capReachedBy = some strategy ∧
      ∀ entry ∈ log, entry.1.strategyId = strategy := by
  induction trail with
  | nil stand => exact ⟨capped, by simp⟩
  | cons step _ ih =>
    obtain ⟨still, own⟩ := ih (step.cap_kept capped)
    exact ⟨still, List.forall_mem_cons.2 ⟨Progress.strategyId_of_capped capped step.isOpen, own⟩⟩

/-- The answer to the query brings the number of distinct identifiers up to the cap, where
`answers` came before it. -/
def FillsCap (cap : Nat) (answers : Answers) (item : PlannedQuery) (response : SearchResponse) :
    Prop :=
  answers.arrivals.length < cap ∧ cap ≤ (answers ++ [(item, response)]).arrivals.length

/-- A step below the cap stays below it, or its answer fills it. -/
theorem Step.cap_filled {stand next : Stand} {entry : PlannedQuery × QueryResult}
    (step : Step settings stand entry next) {answers : Answers}
    (merged : Merged settings.maxPatents answers stand.progress.found)
    (below : answers.arrivals.length < settings.maxPatents)
    (uncapped : stand.progress.capReachedBy = none) :
    (next.progress.capReachedBy = none ∧
      (answers ++ answered [entry]).arrivals.length < settings.maxPatents) ∨
    ∃ response attempts, entry.2 = ⟨.ok response, attempts⟩ ∧
      FillsCap settings.maxPatents answers entry.1 response ∧
      next.progress.capReachedBy = some entry.1.strategyId := by
  obtain ⟨item, result⟩ := entry
  rcases Progress.note_eq_ok step.noted with
    ⟨response, attempts, rfl, form⟩ | ⟨failure, attempts, badRequests, rfl, form⟩
  · have found := (merged.answer item response).length_eq
    have noted : next.progress.capReachedBy =
        if settings.maxPatents ≤ (answers ++ [(item, response)]).arrivals.length then
          some item.strategyId else none := by
      simp only [form, Progress.succeed, Progress.counted, uncapped, Option.isNone_none,
        Bool.true_and, decide_eq_true_eq, found, le_min_iff, le_refl, true_and]
    by_cases filled : settings.maxPatents ≤ (answers ++ [(item, response)]).arrivals.length
    · exact .inr ⟨response, attempts, rfl, ⟨below, filled⟩, by rw [noted, if_pos filled]⟩
    · exact .inl ⟨by rw [noted, if_neg filled], Nat.lt_of_not_le filled⟩
  · exact .inl ⟨by rw [form]; exact uncapped, by simpa using below⟩

/-- A search stays below the cap, or there is a query whose answer fills it, after which only
queries of the same strategy are sent. -/
theorem Trail.cap_filled {stand last : Stand} {log : Log} (trail : Trail settings stand log last) :
    ∀ {answers : Answers}, Merged settings.maxPatents answers stand.progress.found →
      answers.arrivals.length < settings.maxPatents → stand.progress.capReachedBy = none →
      (last.progress.capReachedBy = none ∧
        (answers ++ answered log).arrivals.length < settings.maxPatents) ∨
      ∃ before item response attempts after,
        log = before ++ (item, ⟨.ok response, attempts⟩) :: after ∧
        FillsCap settings.maxPatents (answers ++ answered before) item response ∧
        last.progress.capReachedBy = some item.strategyId ∧
        ∀ entry ∈ after, entry.1.strategyId = item.strategyId := by
  induction trail with
  | nil stand => intro answers _ below uncapped; exact .inl ⟨uncapped, by simpa using below⟩
  | @cons stand next last entry log step trail ih =>
    intro answers merged below uncapped
    rcases step.cap_filled merged below uncapped with
      ⟨uncapped, below⟩ | ⟨response, attempts, form, fills, capped⟩
    · rcases ih (step.merged merged) below uncapped with
        ⟨uncapped, below⟩ | ⟨before, item, response, attempts, after, rfl, fills, rest⟩
      · refine .inl ⟨uncapped, ?_⟩
        rwa [← List.singleton_append, answered_append, ← List.append_assoc]
      · refine .inr ⟨entry :: before, item, response, attempts, after, rfl, ?_, rest⟩
        rwa [← List.singleton_append, answered_append, ← List.append_assoc]
    · obtain ⟨kept, own⟩ := trail.cap_kept capped
      obtain ⟨item, result⟩ := entry
      obtain rfl : result = ⟨.ok response, attempts⟩ := form
      exact .inr ⟨[], item, response, attempts, log, rfl, by simpa using fills, kept, own⟩

/-- The queries of a log are those of the plan up to the cap: all of them if their answers stay
below it, otherwise up to the first query of another strategy after the one that fills it. -/
def StopsAtCap (cap : Nat) (plan : List PlannedQuery) (log : Log) : Prop :=
  ((answered log).arrivals.length < cap ∧ log.map (·.1) = plan) ∨
  ∃ before item response attempts after rest,
    log = before ++ (item, ⟨.ok response, attempts⟩) :: after ∧
    FillsCap cap (answered before) item response ∧
    plan = before.map (·.1) ++ item :: rest ∧
    after.map (·.1) = rest.takeWhile (·.strategyId = item.strategyId)

/-- The queries of a trail from an empty progress are those of the plan up to the cap, if the
trail ends where the plan is exhausted or closed to the next query. -/
theorem Trail.stopsAtCap {gate : Gate} {service : Service} {last : Stand} {log : Log}
    (trail : Trail settings ⟨gate, .empty, service⟩ log last) (positive : 1 ≤ settings.maxPatents)
    {rest : List PlannedQuery}
    (closed : ∀ item ∈ rest.head?, last.progress.isClosedTo item = true) :
    StopsAtCap settings.maxPatents (log.map (·.1) ++ rest) log := by
  rcases trail.cap_filled (Merged.nil _) positive rfl with
    ⟨uncapped, below⟩ | ⟨before, item, response, attempts, after, rfl, fills, capped, own⟩
  · refine .inl ⟨below, ?_⟩
    have none_left : rest = [] := by
      cases rest with
      | nil => rfl
      | cons next others => simp [Progress.isClosedTo, uncapped] at closed
    rw [none_left, List.append_nil]
  · refine .inr ⟨before, item, response, attempts, after, after.map (·.1) ++ rest, rfl, fills,
      by simp, ?_⟩
    have inside : ∀ query ∈ after.map (·.1),
        decide (query.strategyId = item.strategyId) = true := by
      intro query member
      obtain ⟨entry, inAfter, rfl⟩ := List.mem_map.1 member
      exact decide_eq_true (own entry inAfter)
    have outside : rest.takeWhile (·.strategyId = item.strategyId) = [] := by
      cases rest with
      | nil => rfl
      | cons next others =>
        have other : item.strategyId ≠ next.strategyId := by
          simpa [Progress.isClosedTo, capped] using closed
        simp [Ne.symm other]
    rw [List.takeWhile_append_of_pos inside, outside, List.append_nil]

/-! ## The outcome -/

/-- The patent is what the answers make of its identifier: the record of the first row that has it,
the queries whose answers name it, and the number of strategies that these queries serve. -/
structure IsMergeOf (answers : Answers) (patent : PatentRecord) : Prop where
  fields : ∃ row, answers.firstRow? patent.id = some row ∧
    { patent with matchedQueries := [], strategyCount := 0 } = row.record
  queries : patent.matchedQueries = ((answers.naming patent.id).map (·.id)).eraseDups
  named : patent.matchedQueries ≠ []
  strategies :
    patent.strategyCount = ((answers.naming patent.id).map (·.strategyId)).eraseDups.length

theorem HasRecord.matchedQueries_ne_nil {answers : Answers} {patent : PatentRecord}
    (h : HasRecord answers patent) (arrived : patent.id ∈ answers.arrivals) :
    patent.matchedQueries ≠ [] := by
  obtain ⟨-, row, inRows, same⟩ := mem_arrivals.1 arrived
  obtain ⟨⟨item, response⟩, answered, inReply⟩ := List.mem_flatMap.1 inRows
  have naming : item ∈ answers.naming patent.id := mem_naming.2 ⟨response, answered, row, inReply, same⟩
  have noted : item.id ∈ patent.matchedQueries := by
    rw [h.2, List.mem_eraseDups]
    exact List.mem_map_of_mem naming
  exact List.ne_nil_of_mem noted

/-- The owner of a query of a plan is the strategy it serves, if the identifier tells. -/
theorem owner_of_mem {plan : List PlannedQuery} {item : PlannedQuery} (h : item ∈ plan)
    (unique : ∀ other ∈ plan, other.id = item.id → other.strategyId = item.strategyId) :
    owner plan item.id = item.strategyId := by
  have fold : ∀ (items : List PlannedQuery) (found : String), (∀ other ∈ items, other ∈ plan) →
      (found = item.strategyId ∨ item ∈ items) →
      items.foldl (fun found other => if other.id = item.id then other.strategyId else found)
        found = item.strategyId := by
    intro items
    induction items with
    | nil => intro found _ h; simpa using h
    | cons other rest ih =>
      intro found inPlan h
      refine ih _ (fun o ho => inPlan o (List.mem_cons_of_mem _ ho)) ?_
      by_cases same : other.id = item.id
      · exact .inl (by simp [same, unique other (inPlan other List.mem_cons_self) same])
      · rcases h with h | h
        · exact .inl (by simp [same, h])
        · exact .inr ((List.mem_cons.1 h).resolve_left fun eq => same (eq ▸ rfl))
  exact fold plan item.id (fun _ h => h) (.inr h)

theorem strategyCount_eq {strategies : List SearchStrategy} {answers : Answers}
    {patent : PatentRecord} (h : HasRecord answers patent)
    (planned : ∀ item ∈ answers.naming patent.id, item ∈ Plan.ofStrategies strategies) :
    strategyCount (Plan.ofStrategies strategies) patent =
      ((answers.naming patent.id).map (·.strategyId)).eraseDups.length := by
  have owned : ∀ item ∈ answers.naming patent.id,
      owner (Plan.ofStrategies strategies) item.id = item.strategyId := fun item naming =>
    owner_of_mem (planned item naming) fun other inPlan same =>
      Plan.strategyId_eq_of_id_eq inPlan (planned item naming) same
  refine length_eraseDups_congr fun strategy => ?_
  rw [h.2]
  simp only [List.mem_map, List.mem_eraseDups, exists_exists_and_eq_and]
  constructor
  · rintro ⟨item, naming, rfl⟩
    exact ⟨item, naming, (owned item naming).symm⟩
  · rintro ⟨item, naming, rfl⟩
    exact ⟨item, naming, owned item naming⟩

/-- A concluded search failed with some query less than it planned, and holds what was found. -/
theorem conclude_eq_ok {plan : List PlannedQuery} {progress : Progress} {outcome : SearchOutcome}
    (h : conclude plan progress = .ok outcome) :
    progress.failed ≠ plan.length ∧ outcome.queries = plan ∧
      outcome.totalHits = progress.totalHits ∧
      outcome.patents = PatentRecord.sortByGrantDate
        (progress.found.map fun p => { p with strategyCount := strategyCount plan p }) := by
  unfold conclude at h
  split at h
  case isTrue => cases h
  case isFalse notAll => cases h; exact ⟨notAll, rfl, rfl, rfl⟩

/-- **The merge of a search.** The queries that a search with an outcome sent are those of its plan
up to the cap. Its patents are, in the order of their grant dates, the first distinct identifiers
that arrived in the answers, as many as the cap allows, and each patent is what the answers make of
its identifier. -/
theorem patents_run {strategies : List SearchStrategy} {service : Service}
    {outcome : SearchOutcome} (positive : 1 ≤ settings.maxPatents)
    (ok : (run settings strategies service).1 = .ok outcome) :
    ∃ log,
      Sent settings (Gate.opening settings.requestsPerMinute service.clock.now) service log
        (run settings strategies service).2 ∧
      StopsAtCap settings.maxPatents (Plan.ofStrategies strategies) log ∧
      (outcome.patents.map (·.id)).Perm ((answered log).arrivals.take settings.maxPatents) ∧
      outcome.patents.Pairwise PatentRecord.Precedes ∧
      ∀ patent ∈ outcome.patents, IsMergeOf (answered log) patent := by
  obtain ⟨log, rest, stand, split, trail, closed, concluded, after⟩ := run_eq_ok ok
  have merged := trail.merged_found
  obtain ⟨-, -, -, patents⟩ := conclude_eq_ok concluded
  have ids : (stand.progress.found.map fun p =>
      { p with strategyCount := strategyCount (Plan.ofStrategies strategies) p }).map (·.id) =
        stand.progress.found.map (·.id) := by
    rw [List.map_map]
    rfl
  refine ⟨log, after ▸ trail.sent, split ▸ trail.stopsAtCap positive closed, ?_, ?_, ?_⟩
  · rw [patents, ← merged.ids, ← ids]
    exact (perm_sortBy _ _).map _
  · rw [patents]
    exact PatentRecord.pairwise_sortByGrantDate (ids ▸ merged.nodup)
  · intro patent member
    rw [patents] at member
    obtain ⟨found, inFound, rfl⟩ := List.mem_map.1 (mem_sortBy.1 member)
    have record := merged.records found inFound
    have planned : ∀ item ∈ (answered log).naming found.id,
        item ∈ Plan.ofStrategies strategies := by
      intro item naming
      rw [split]
      exact List.mem_append_left _ (mem_of_mem_naming naming)
    exact ⟨record.1, record.2, record.matchedQueries_ne_nil (merged.mem_arrivals inFound),
      strategyCount_eq record planned⟩

/-! ### A search with a cap of one patent -/

def sampleSettings : SearchSettings :=
  { maxPatents := 1
    requestsPerMinute := 60
    maxAttempts := 1
    backoffBase := 0
    maxBadRequests := 1 }

def sampleStrategies : List SearchStrategy :=
  [⟨"A", "", .secondary, [], ["heal"], []⟩, ⟨"B", "", .primary, [], ["crack", "seal"], []⟩]

def sampleRow (id : String) : Listing :=
  ⟨id, "", "", "", .null, [], [], []⟩

/-- The first answer has a blank identifier and one beyond the cap, the second names the patent
again. -/
def sampleService : Service :=
  { clock := .start
    calls := []
    answer
      | 0 => ⟨0, false, .ok ⟨false, 0, 0, [sampleRow " P1", sampleRow "", sampleRow "P2"]⟩⟩
      | _ => ⟨0, false, .ok ⟨false, 0, 0, [sampleRow "P3", sampleRow "P1"]⟩⟩ }

theorem inOrder_sampleStrategies :
    Plan.inOrder sampleStrategies = sampleStrategies.reverse := by
  cbv

theorem run_sample :
    (run sampleSettings sampleStrategies sampleService).1.toOption.map (fun outcome =>
      outcome.patents.map fun p => (p.id, p.matchedQueries, p.strategyCount)) =
    some [("P1", ["B_narrow_p1", "B_narrow_p2"], 1)] := by
  rw [run, Plan.ofStrategies, inOrder_sampleStrategies]
  decide +kernel

theorem patents_run_sample : ∃ outcome,
    1 ≤ sampleSettings.maxPatents ∧
    (run sampleSettings sampleStrategies sampleService).1 = .ok outcome ∧
    outcome.patents.map (·.id) = ["P1"] ∧
    ∃ log,
      Sent sampleSettings
        (Gate.opening sampleSettings.requestsPerMinute sampleService.clock.now) sampleService log
        (run sampleSettings sampleStrategies sampleService).2 ∧
      StopsAtCap sampleSettings.maxPatents (Plan.ofStrategies sampleStrategies) log ∧
      (outcome.patents.map (·.id)).Perm
        ((answered log).arrivals.take sampleSettings.maxPatents) ∧
      outcome.patents.Pairwise PatentRecord.Precedes ∧
      ∀ patent ∈ outcome.patents, IsMergeOf (answered log) patent := by
  have found := run_sample
  cases ok : (run sampleSettings sampleStrategies sampleService).1 with
  | error error => simp [ok, Except.toOption] at found
  | ok outcome =>
    rw [ok] at found
    have ids := congrArg (Option.map (List.map (·.1))) found
    simp only [Except.toOption, Option.map_some, Option.some.injEq, List.map_map] at ids
    have merge := patents_run (by decide) ok
    exact ⟨outcome, by decide, rfl, ids, merge⟩

end Search

end PriorArt
