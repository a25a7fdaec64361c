import Mathlib.Data.List.Nodup
import Mathlib.Tactic.IntervalCases
import PriorArt.Proofs.Query.Parts

/-!
# Identifiers of planned queries

The identifier of a planned query is the identifier of its strategy with one of five endings
(`mem_ofStrategy`). No two endings have the same last character, so a query of a plan tells which
strategy it serves by its identifier alone (`strategyId_eq_of_id_eq`), whatever the identifiers of
the strategies look like. Strategies with distinct identifiers have queries with distinct
identifiers (`nodup_ofStrategies`).
-/

namespace PriorArt

namespace Plan

/-- What follows the identifier of the strategy in the identifier of a query. -/
def endings : List String :=
  ["_narrow_p1", "_narrow_p2", "_narrow_p3", "_narrow_all", "_broad"]

/-- An ending is known by its last character. -/
theorem eq_of_getLast?_endings :
    ∀ first ∈ endings, ∀ second ∈ endings,
      first.toList.getLast? = second.toList.getLast? → first = second := by
  decide +kernel

theorem isSome_getLast?_endings : ∀ ending ∈ endings, ending.toList.getLast?.isSome = true := by
  decide +kernel

theorem getLast?_append_ending (left : String) {ending : String} (h : ending ∈ endings) :
    (left ++ ending).toList.getLast? = ending.toList.getLast? := by
  obtain ⟨c, hc⟩ := Option.isSome_iff_exists.1 (isSome_getLast?_endings ending h)
  rw [String.toList_append, List.getLast?_append, hc, Option.some_or]

theorem eq_of_append_endings {left right first second : String} (hf : first ∈ endings)
    (hs : second ∈ endings) (h : left ++ first = right ++ second) : left = right := by
  have last : first.toList.getLast? = second.toList.getLast? := by
    rw [← getLast?_append_ending left hf, h, getLast?_append_ending right hs]
  obtain rfl := eq_of_getLast?_endings first hf second hs last
  have lists := congrArg String.toList h
  rw [String.toList_append, String.toList_append] at lists
  exact String.toList_inj.1 (List.append_cancel_right lists)

theorem narrow_mem_endings {number : Nat} (h : number < mostPhrases) :
    "_narrow_p" ++ toString (number + 1) ∈ endings := by
  unfold mostPhrases at h
  interval_cases number <;> decide +kernel

theorem narrow_ne_broad {number : Nat} (h : number < mostPhrases) :
    "_narrow_p" ++ toString (number + 1) ≠ "_broad" := by
  unfold mostPhrases at h
  interval_cases number <;> decide +kernel

theorem IsNarrow.exists_ending {id : String} {items : List PlannedQuery}
    (narrow : IsNarrow id items) {item : PlannedQuery} (member : item ∈ items) :
    ∃ ending ∈ endings, ending ≠ "_broad" ∧ item.id = id ++ ending := by
  cases narrow with
  | phrases few =>
    obtain ⟨position, inside, rfl⟩ := List.mem_mapIdx.1 member
    have early : position < mostPhrases := Nat.lt_of_lt_of_le inside few
    exact ⟨_, narrow_mem_endings early, narrow_ne_broad early, String.append_assoc ..⟩
  | terms =>
    cases List.mem_singleton.1 member
    exact ⟨"_narrow_all", by decide, by decide, rfl⟩

/-- A query of a strategy carries the trimmed identifier of the strategy, which is not empty, and
its own identifier is that with an ending. -/
theorem mem_ofStrategy {strategy : SearchStrategy} {item : PlannedQuery}
    (h : item ∈ ofStrategy strategy) :
    item.strategyId = Text.trim strategy.id ∧ Text.trim strategy.id ≠ "" ∧
      ∃ ending ∈ endings, item.id = item.strategyId ++ ending := by
  obtain ⟨named, narrow | broad⟩ := mem_ofStrategy_cases h
  · obtain ⟨serves, -⟩ := (isNarrow_narrowQueries strategy).of_mem narrow
    obtain ⟨ending, known, -, form⟩ := (isNarrow_narrowQueries strategy).exists_ending narrow
    exact ⟨serves, named, ending, known, serves ▸ form⟩
  · obtain ⟨serves, -, form⟩ := (isBroad_broadQueries strategy).of_mem broad
    exact ⟨serves, named, "_broad", by decide, serves ▸ form⟩

theorem mem_ofStrategies {strategies : List SearchStrategy} {item : PlannedQuery}
    (h : item ∈ ofStrategies strategies) :
    ∃ strategy ∈ strategies, item ∈ ofStrategy strategy := by
  obtain ⟨strategy, hs, hi⟩ := List.mem_flatMap.1 h
  exact ⟨strategy, mem_sortBy.1 hs, hi⟩

/-- The identifier of a planned query determines the strategy that it serves. -/
theorem strategyId_eq_of_id_eq {strategies : List SearchStrategy} {first second : PlannedQuery}
    (hf : first ∈ ofStrategies strategies) (hs : second ∈ ofStrategies strategies)
    (h : first.id = second.id) : first.strategyId = second.strategyId := by
  obtain ⟨_, -, ofFirst⟩ := mem_ofStrategies hf
  obtain ⟨_, -, ofSecond⟩ := mem_ofStrategies hs
  obtain ⟨-, -, ending, he, formFirst⟩ := mem_ofStrategy ofFirst
  obtain ⟨-, -, ending', he', formSecond⟩ := mem_ofStrategy ofSecond
  exact eq_of_append_endings he he' (by rw [← formFirst, ← formSecond, h])

/-- The identifier of the second strategy is that of a query of the first one. -/
example :
    (["Q1", "Q1_broad"].flatMap fun id => (ofStrategy ⟨id, "", .primary, [], ["a"], []⟩ ++
      ofStrategy ⟨id, "", .primary, [⟨"a", [], [], []⟩], [], []⟩).map (·.id)) =
    ["Q1_narrow_p1", "Q1_narrow_all", "Q1_broad",
      "Q1_broad_narrow_p1", "Q1_broad_narrow_all", "Q1_broad_broad"] := by
  decide +kernel

/-! ## Distinct identifiers -/

theorem narrow_injective : ∀ first < mostPhrases, ∀ second < mostPhrases,
    "_narrow_p" ++ toString (first + 1) = "_narrow_p" ++ toString (second + 1) →
      first = second := by
  decide +kernel

theorem IsNarrow.nodup {id : String} {items : List PlannedQuery} (narrow : IsNarrow id items) :
    (items.map (·.id)).Nodup := by
  cases narrow with
  | phrases few =>
    refine List.pairwise_iff_getElem.2 fun first second inFirst inSecond before same => ?_
    simp only [List.getElem_map, List.getElem_mapIdx, String.append_assoc,
      String.append_right_inj] at same
    simp only [List.length_map, List.length_mapIdx] at inFirst inSecond
    have equal := narrow_injective first (by unfold mostPhrases; omega) second
      (by unfold mostPhrases; omega) ((String.append_right_inj _).2 same)
    omega
  | terms => exact List.nodup_singleton _

theorem IsBroad.nodup {id : String} {items : List PlannedQuery} (broad : IsBroad id items) :
    (items.map (·.id)).Nodup := by
  cases broad with
  | none => exact List.nodup_nil
  | one => exact List.nodup_singleton _

theorem nodup_ofStrategy (strategy : SearchStrategy) :
    ((ofStrategy strategy).map (·.id)).Nodup := by
  have narrow := isNarrow_narrowQueries strategy
  have broad := isBroad_broadQueries strategy
  rw [ofStrategy_eq_append]
  split
  case isTrue => exact List.nodup_nil
  case isFalse =>
    rw [List.map_append]
    refine List.nodup_append.2 ⟨narrow.nodup, broad.nodup, ?_⟩
    intro _ ofNarrow _ ofBroad same
    obtain ⟨item, inNarrow, rfl⟩ := List.mem_map.1 ofNarrow
    obtain ⟨other, inBroad, rfl⟩ := List.mem_map.1 ofBroad
    obtain ⟨ending, -, differs, form⟩ := narrow.exists_ending inNarrow
    rw [form, (broad.of_mem inBroad).2.2] at same
    exact differs ((String.append_right_inj _).1 same)

/-- Strategies with distinct identifiers have queries with distinct identifiers. -/
theorem nodup_ofStrategies {strategies : List SearchStrategy}
    (distinct : (strategies.map fun strategy => Text.trim strategy.id).Nodup) :
    ((ofStrategies strategies).map (·.id)).Nodup := by
  have inOrder : ((inOrder strategies).map fun strategy => Text.trim strategy.id).Nodup :=
    ((perm_sortBy _ _).map _).nodup_iff.2 distinct
  unfold ofStrategies
  rw [List.map_flatMap, List.nodup_flatMap]
  refine ⟨fun strategy _ => nodup_ofStrategy strategy, (List.pairwise_map.1 inOrder).imp ?_⟩
  intro first second differ id ofFirst ofSecond
  obtain ⟨item, planned, rfl⟩ := List.mem_map.1 ofFirst
  obtain ⟨other, planned', same⟩ := List.mem_map.1 ofSecond
  obtain ⟨serves, -, ending, he, form⟩ := mem_ofStrategy planned
  obtain ⟨serves', -, ending', he', form'⟩ := mem_ofStrategy planned'
  refine differ ?_
  rw [← serves, ← serves']
  exact eq_of_append_endings he he' (by rw [← form, ← form', same])

end Plan

end PriorArt
