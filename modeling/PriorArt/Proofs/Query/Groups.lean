import PriorArt.Proofs.Query.Composition
import PriorArt.Proofs.Query.Identifiers

/-!
# How a plan is arranged

The plan for a list of strategies, whether they are in normal form or not.

1. `Plan.IsGroupOf`: how the queries of one strategy follow each other.
2. `Plan.IsArranged`: one group for each strategy, in the order of the priorities, and no two
   groups of different strategies with one identifier (`Plan.isArranged_ofStrategies`).
-/

namespace PriorArt

namespace Plan

/-! ## The group of one strategy -/

def phrasesOf (items : List PlannedQuery) : List String :=
  (items.filter (·.kind = .narrowPhrase)).map (·.query.text)

/-- The queries of a strategy carry its trimmed identifier. The narrow ones come before the broad
one, and there is one for each of the first three phrases. A strategy has no queries at all if it
has no identifier, or no phrase and no term. -/
structure IsGroupOf (strategy : SearchStrategy) (group : List PlannedQuery) : Prop where
  parts : ∃ narrow broad, group = narrow ++ broad ∧ IsNarrow (Text.trim strategy.id) narrow ∧
    IsBroad (Text.trim strategy.id) broad
  owner : ∀ item ∈ group, item.strategyId = Text.trim strategy.id
  size : group.length ≤ 4
  phrases : Text.trim strategy.id ≠ "" → phrasesOf group = (givenPhrases strategy).take 3
  empty : group = [] ↔
    Text.trim strategy.id = "" ∨ givenPhrases strategy = [] ∧ givenTerms strategy = []

theorem phrasesOf_narrowQueries (strategy : SearchStrategy) :
    phrasesOf (narrowQueries strategy) = (givenPhrases strategy).take 3 := by
  unfold narrowQueries phrasesOf
  by_cases silent : givenPhrases strategy = []
  · by_cases wordless : givenTerms strategy = [] <;> simp [silent, wordless]
  · dsimp only
    rw [if_pos silent, List.filter_eq_self.2]
    · exact List.ext_getElem (by simp) (by simp)
    · intro item member
      obtain ⟨position, inside, rfl⟩ := List.mem_mapIdx.1 member
      rfl

theorem IsBroad.phrasesOf_eq_nil {id : String} {items : List PlannedQuery}
    (broad : IsBroad id items) : phrasesOf items = [] := by
  cases broad <;> rfl

theorem isGroupOf_append {strategy : SearchStrategy} (named : Text.trim strategy.id ≠ "")
    (asks : narrowQueries strategy ≠ []) :
    IsGroupOf strategy (narrowQueries strategy ++ broadQueries strategy) where
  parts := ⟨_, _, rfl, isNarrow_narrowQueries strategy, isBroad_broadQueries strategy⟩
  owner := by
    intro item member
    rcases List.mem_append.1 member with narrow | broad
    · exact ((isNarrow_narrowQueries strategy).of_mem narrow).1
    · exact ((isBroad_broadQueries strategy).of_mem broad).1
  size := by
    rw [List.length_append]
    exact Nat.add_le_add (isNarrow_narrowQueries strategy).length_le
      (isBroad_broadQueries strategy).length_le
  phrases := fun _ => by
    rw [phrasesOf, List.filter_append, List.map_append, ← phrasesOf, ← phrasesOf,
      phrasesOf_narrowQueries, (isBroad_broadQueries strategy).phrasesOf_eq_nil, List.append_nil]
  empty := by
    rw [← narrowQueries_eq_nil_iff]
    simp only [List.append_eq_nil_iff, named, asks, false_and, false_or]

theorem isGroupOf_ofStrategy (strategy : SearchStrategy) :
    IsGroupOf strategy (ofStrategy strategy) := by
  rw [ofStrategy_eq_append]
  split
  case isFalse some => exact isGroupOf_append (not_or.1 some).1 (not_or.1 some).2
  case isTrue none =>
    constructor
    case parts => exact ⟨[], [], rfl, isNarrow_nil, .none⟩
    case owner => simp
    case size => simp
    case phrases =>
      intro named
      obtain ⟨silent, -⟩ := (narrowQueries_eq_nil_iff strategy).1 (none.resolve_left named)
      rw [silent]
      rfl
    case empty => simpa only [true_iff, ← narrowQueries_eq_nil_iff] using none

/-! ## The groups of a plan -/

/-- The plan has a group of queries for each strategy, those of one priority after those of another
and otherwise in the order of the strategies. Queries with one identifier are of strategies with one
identifier. -/
structure IsArranged (strategies : List SearchStrategy) (plan : List PlannedQuery) : Prop where
  groups : ∃ groups, List.Forall₂ IsGroupOf (byPriority strategies) groups ∧ plan = groups.flatten
  identified : ∀ first ∈ plan, ∀ second ∈ plan,
    first.id = second.id → first.strategyId = second.strategyId

/-- **The arrangement of a plan.** It is the same for all strategies, whatever their identifiers,
phrases and terms are. -/
theorem isArranged_ofStrategies (strategies : List SearchStrategy) :
    IsArranged strategies (ofStrategies strategies) where
  groups := by
    refine ⟨(byPriority strategies).map ofStrategy, ?_, ?_⟩
    · exact List.forall₂_map_right_iff.2 (List.forall₂_same.2 fun strategy _ =>
        isGroupOf_ofStrategy strategy)
    · rw [ofStrategies, inOrder_eq_byPriority, List.flatMap_def]
  identified := fun _ inPlan _ alsoInPlan same => strategyId_eq_of_id_eq inPlan alsoInPlan same

end Plan

end PriorArt
