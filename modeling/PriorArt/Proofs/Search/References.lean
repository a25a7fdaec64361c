import PriorArt.Proofs.Search.Outcome

/-!
# What the outcome of a search refers to

The patents of a search have distinct trimmed identifiers. They refer to queries of the plan only,
and so do the numbers of hits; the queries refer to the strategies they were planned for
(`isSound_of_run`).
-/

namespace PriorArt

/-- The patents have distinct identifiers, the queries that they and the numbers of hits refer to
are planned ones, and each planned query serves one of the strategies. -/
structure SearchOutcome.IsSound (outcome : SearchOutcome) (strategies : List SearchStrategy) :
    Prop where
  named : ∀ patent ∈ outcome.patents, patent.id ≠ "" ∧ Text.trim patent.id = patent.id
  distinct : (outcome.patents.map (·.id)).Nodup
  matched : ∀ patent ∈ outcome.patents, ∀ query ∈ patent.matchedQueries,
    query ∈ outcome.queries.map (·.id)
  counted : ∀ row ∈ outcome.totalHits, row.1 ∈ outcome.queries.map (·.id)
  served : ∀ item ∈ outcome.queries, ∃ strategy ∈ strategies,
    item.strategyId = Text.trim strategy.id

namespace Search

open Answers

variable {settings : SearchSettings}

theorem Step.counted {stand next : Stand} {entry : PlannedQuery × QueryResult}
    (step : Step settings stand entry next) {row : String × Nat}
    (h : row ∈ next.progress.totalHits) :
    row ∈ stand.progress.totalHits ∨ row.1 = entry.1.id := by
  obtain ⟨item, result⟩ := entry
  rcases Progress.note_eq_ok step.noted with ⟨response, attempts, -, form⟩ | ⟨_, _, _, -, form⟩
  · rw [form] at h
    rcases Keyed.mem_insert h with rfl | old
    · exact .inr rfl
    · exact .inl old
  · rw [form] at h
    exact .inl h

theorem Trail.counted {stand last : Stand} {log : Log} (trail : Trail settings stand log last)
    {row : String × Nat} (h : row ∈ last.progress.totalHits) :
    row ∈ stand.progress.totalHits ∨ row.1 ∈ (log.map (·.1)).map (·.id) := by
  induction trail with
  | nil stand => exact .inl h
  | cons step _ ih =>
    rcases ih h with noted | later
    · rcases step.counted noted with old | own
      · exact .inl old
      · exact .inr (own ▸ List.mem_cons_self)
    · exact .inr (List.mem_cons_of_mem _ later)

theorem Answers.trimmed_of_mem_arrivals {answers : Answers} {id : String}
    (h : id ∈ answers.arrivals) : id ≠ "" ∧ Text.trim id = id := by
  obtain ⟨named, row, -, rfl⟩ := mem_arrivals.1 h
  exact ⟨named, Text.trim_trim row.id⟩

theorem isSound_of_run {strategies : List SearchStrategy} {service : Service}
    {outcome : SearchOutcome} (ok : (run settings strategies service).1 = .ok outcome) :
    outcome.IsSound strategies := by
  obtain ⟨log, rest, stand, split, trail, -, concluded, -⟩ := run_eq_ok ok
  have merged := trail.merged_found
  obtain ⟨-, queries, totalHits, patents⟩ := conclude_eq_ok concluded
  have sent {item : PlannedQuery} (h : item ∈ log.map (·.1)) :
      item ∈ Plan.ofStrategies strategies := split ▸ List.mem_append_left rest h
  have ofFound {patent : PatentRecord} (h : patent ∈ outcome.patents) :
      ∃ found ∈ stand.progress.found,
        patent.id = found.id ∧ patent.matchedQueries = found.matchedQueries := by
    rw [patents] at h
    obtain ⟨found, inFound, rfl⟩ := List.mem_map.1 (mem_sortBy.1 h)
    exact ⟨found, inFound, rfl, rfl⟩
  exact
    { named := by
        intro patent member
        obtain ⟨found, inFound, same, -⟩ := ofFound member
        rw [same]
        exact trimmed_of_mem_arrivals (merged.mem_arrivals inFound)
      distinct := by
        rw [patents]
        refine ((perm_sortBy _ _).map _).nodup_iff.2 ?_
        rw [List.map_map]
        exact merged.nodup
      matched := by
        intro patent member query inQueries
        obtain ⟨found, inFound, -, same⟩ := ofFound member
        rw [same, (merged.records found inFound).2, List.mem_eraseDups] at inQueries
        obtain ⟨item, naming, rfl⟩ := List.mem_map.1 inQueries
        rw [queries]
        exact List.mem_map_of_mem (sent (mem_of_mem_naming naming))
      counted := by
        intro row member
        rw [totalHits] at member
        rcases trail.counted member with absent | noted
        · cases absent
        · obtain ⟨item, inLog, same⟩ := List.mem_map.1 noted
          rw [queries, ← same]
          exact List.mem_map_of_mem (sent inLog)
      served := by
        intro item member
        rw [queries] at member
        obtain ⟨strategy, inStrategies, ofStrategy⟩ := Plan.mem_ofStrategies member
        exact ⟨strategy, inStrategies, (Plan.mem_ofStrategy ofStrategy).1⟩ }

end Search

end PriorArt
