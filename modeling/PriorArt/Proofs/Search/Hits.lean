import PriorArt.Proofs.Search.Outcome
import PriorArt.Proofs.Strategy.Normal

/-!
# The numbers of hits of a search

A search keeps the number of hits that each answer reports under the identifier of its query
(`Trail.noted`). It keeps one for each query that was answered if the strategies have distinct
identifiers (`totalHits_run`). A document in normal form may give one identifier to two strategies;
then the number of the later query takes the place of the earlier one (`totalHits_twins`).
-/

namespace PriorArt

namespace Search

variable {settings : SearchSettings}

/-- The numbers of hits that answers report, by the identifiers of the queries. -/
def reported (answers : Answers) : List (String × Nat) :=
  answers.map fun answer => (answer.1.id, answer.2.totalHits)

/-- The answers were counted, and what they report was noted. -/
structure Notes (answers : Answers) (progress : Progress) : Prop where
  executed : progress.executed = answers.length
  totalHits : progress.totalHits = Keyed.ofList (reported answers)

theorem Step.noted_answer {stand next : Stand} {entry : PlannedQuery × QueryResult}
    (step : Step settings stand entry next) {answers : Answers}
    (notes : Notes answers stand.progress) : Notes (answers ++ answered [entry]) next.progress := by
  obtain ⟨item, result⟩ := entry
  rcases Progress.note_eq_ok step.noted with
    ⟨response, attempts, rfl, form⟩ | ⟨failure, attempts, badRequests, rfl, form⟩
  · rw [form]
    have oneMore : answered [(item, ⟨.ok response, attempts⟩)] = [(item, response)] := rfl
    refine ⟨?_, ?_⟩
    · rw [oneMore, List.length_append, List.length_singleton, ← notes.executed]
      rfl
    · rw [oneMore, reported, List.map_append, Keyed.ofList, List.foldl_append]
      exact congrArg (Keyed.insert item.id response.totalHits) notes.totalHits
  · rw [form, answered_cons_error, answered_nil, List.append_nil]
    exact ⟨notes.executed, notes.totalHits⟩

theorem Trail.noted {stand last : Stand} {log : Log} (trail : Trail settings stand log last) :
    ∀ {answers : Answers}, Notes answers stand.progress →
      Notes (answers ++ answered log) last.progress := by
  induction trail with
  | nil stand => intro answers notes; simpa using notes
  | cons step _ ih =>
    intro answers notes
    rw [← List.singleton_append, answered_append, ← List.append_assoc]
    exact ih (step.noted_answer notes)

theorem executed_of_conclude {plan : List PlannedQuery} {progress : Progress}
    {outcome : SearchOutcome} (h : conclude plan progress = .ok outcome) :
    outcome.executed = progress.executed := by
  unfold conclude at h
  split at h
  · cases h
  · cases h
    rfl

theorem sublist_answered (log : Log) : ((answered log).map (·.1)).Sublist (log.map (·.1)) := by
  induction log with
  | nil => exact .slnil
  | cons entry rest ih =>
    obtain ⟨item, failure | response, attempts⟩ := entry
    · exact ih.cons item
    · exact ih.cons_cons item

/-- **The hits of a search.** If no two strategies of a document in normal form have the same
identifier, the queries of a search with an outcome have distinct identifiers, and the outcome has
the number of hits of each query that was answered. -/
theorem totalHits_run {document strategy : StrategyDocument}
    (normal : document.normalize = .ok strategy)
    (distinct : (strategy.strategies.map (·.id)).Nodup) {service : Service}
    {outcome : SearchOutcome} (ok : (run settings strategy.strategies service).1 = .ok outcome) :
    outcome.queries = Plan.ofStrategies strategy.strategies ∧
      (outcome.queries.map (·.id)).Nodup ∧
      outcome.totalHits.length = outcome.executed ∧
      ∃ log,
        Sent settings (Gate.opening settings.requestsPerMinute service.clock.now) service log
          (run settings strategy.strategies service).2 ∧
        log.map (·.1) <+: outcome.queries ∧
        outcome.executed = (answered log).length ∧
        ∀ item response, (item, response) ∈ answered log →
          outcome.totalHits.lookup item.id = some response.totalHits := by
  obtain ⟨log, rest, stand, split, trail, -, concluded, after⟩ := run_eq_ok ok
  obtain ⟨-, queries, totalHits, -⟩ := conclude_eq_ok concluded
  have begun : Notes [] Progress.empty := ⟨rfl, rfl⟩
  have notes := trail.noted begun
  have trimmed : strategy.strategies.map (Text.trim ·.id) = strategy.strategies.map (·.id) :=
    List.map_congr_left fun s member => (StrategyDocument.trimmed_of_normalize normal s member).1
  have planned : ((Plan.ofStrategies strategy.strategies).map (·.id)).Nodup :=
    Plan.nodup_ofStrategies (trimmed ▸ distinct)
  have sent : log.map (·.1) <+: Plan.ofStrategies strategy.strategies :=
    split ▸ List.prefix_append ..
  have keys : ((reported (answered log)).map (·.1)).Nodup := by
    have ofAnswers : (reported (answered log)).map (·.1) =
        ((answered log).map (·.1)).map (·.id) := by
      rw [reported, List.map_map, List.map_map]
      rfl
    rw [ofAnswers]
    exact planned.sublist (((sublist_answered log).trans sent.sublist).map _)
  have kept : outcome.totalHits.Perm (reported (answered log)) := by
    rw [totalHits, notes.totalHits]
    exact Keyed.perm_ofList keys
  have executed : outcome.executed = (answered log).length := by
    rw [executed_of_conclude concluded, notes.executed]
    rfl
  refine ⟨queries, queries ▸ planned, ?_, log, after ▸ trail.sent, queries ▸ sent, executed, ?_⟩
  · rw [kept.length_eq, executed, reported, List.length_map]
  · intro item response member
    refine Keyed.lookup_of_mem ((kept.map _).nodup_iff.2 keys) (kept.mem_iff.2 ?_)
    exact List.mem_map_of_mem member

/-! ### A document with and without two strategies of one identifier -/

/-- A document in normal form, with the identifier of its last strategy. -/
def coilDocument (last : String) : StrategyDocument :=
  { title := "A road that heals"
    summary := "A road surface that closes its own cracks by heat."
    elements :=
      [⟨"NE1", "Fibres made of steel"⟩, ⟨"NE2", "Currents from a coil"⟩,
        ⟨"NE3", "Capsules with a seal"⟩]
    domains := ["roads"]
    strategies :=
      [⟨"A", "Fibres carrying heat", .primary, [⟨"wire", [], [], []⟩], ["steel wire"], []⟩,
        ⟨"B", "Coils above the road", .tertiary, [⟨"coil", [], [], []⟩], [], []⟩,
        ⟨last, "Capsules in the road", .tertiary, [⟨"seal", [], [], []⟩], [], []⟩]
    confidence := .zero
    confidenceReason := "Clear text" }

def coilSettings : SearchSettings :=
  { sampleSettings with maxPatents := 5 }

/-- Each answer reports one hit more than the one before it. -/
def coilService : Service :=
  { clock := .start
    calls := []
    answer := fun n => ⟨0, false, .ok ⟨false, 0, n + 1, []⟩⟩ }

theorem inOrder_coilDocument (last : String) :
    Plan.inOrder (coilDocument last).strategies = (coilDocument last).strategies := by
  cbv

/-- With three identifiers the hits of all six queries are kept. -/
theorem totalHits_run_coil : ∃ outcome,
    (coilDocument "C").normalize = .ok (coilDocument "C") ∧
    ((coilDocument "C").strategies.map (·.id)).Nodup ∧
    (run coilSettings (coilDocument "C").strategies coilService).1 = .ok outcome ∧
    outcome.executed = 6 ∧ outcome.totalHits.length = outcome.executed := by
  have normal : (coilDocument "C").normalize = .ok (coilDocument "C") := by
    decide +kernel
  have distinct : ((coilDocument "C").strategies.map (·.id)).Nodup := by
    decide
  have found : (run coilSettings (coilDocument "C").strategies coilService).1.toOption.map
      (·.executed) = some 6 := by
    rw [run, Plan.ofStrategies, inOrder_coilDocument]
    decide +kernel
  cases ok : (run coilSettings (coilDocument "C").strategies coilService).1 with
  | error error => simp [ok, Except.toOption] at found
  | ok outcome =>
    rw [ok] at found
    obtain ⟨-, -, kept, -⟩ := totalHits_run normal distinct ok
    exact ⟨outcome, normal, distinct, rfl, Option.some.inj found, kept⟩

/-- With two identifiers for three strategies, the queries of the last one take the places of two
others, whose hits are lost. -/
theorem totalHits_twins :
    (coilDocument "B").normalize = .ok (coilDocument "B") ∧
    ¬ ((Plan.ofStrategies (coilDocument "B").strategies).map (·.id)).Nodup ∧
    (run coilSettings (coilDocument "B").strategies coilService).1.toOption.map
        (fun outcome => (outcome.executed, outcome.totalHits)) =
      some (6, [("A_broad", 2), ("A_narrow_p1", 1), ("B_broad", 6), ("B_narrow_all", 5)]) := by
  refine ⟨by decide +kernel, ?_, ?_⟩
  · rw [Plan.ofStrategies, inOrder_coilDocument]
    decide +kernel
  · rw [run, Plan.ofStrategies, inOrder_coilDocument]
    decide +kernel

end Search

end PriorArt
