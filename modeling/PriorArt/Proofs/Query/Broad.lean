import PriorArt.Proofs.Query.Composition

/-!
# The broad queries of a plan

1. `Plan.broadOf`: the broad queries among those of a plan. A strategy has the one that it calls for
   if it also has something to ask narrowly (`Plan.broadOf_ofStrategy`).
2. `SearchStrategy.AlikeButPhrases`: two strategies that differ in their phrases at most, where no
   broad query hangs on there being one. They have the same broad query
   (`Plan.broadOf_eq_of_alike`).
3. `Plan.SearchesBroadly`: the broad queries of a plan (`Plan.searchesBroadly_ofStrategies`). A
   strategy whose terms are blank has none, unless it has a phrase (`Plan.broadOf_wordless`).
-/

namespace PriorArt

/-! ## Strategies and their phrases -/

namespace SearchStrategy

/-- The strategies differ in their phrases at most. -/
def AgreesButPhrases (strategy other : SearchStrategy) : Prop :=
  other = { strategy with phrases := other.phrases }

instance (strategy other : SearchStrategy) : Decidable (strategy.AgreesButPhrases other) :=
  inferInstanceAs (Decidable (other = { strategy with phrases := other.phrases }))

/-- The strategy has what a broad query needs, but no term, and so no narrow query either without a
phrase. -/
structure HangsOnPhrases (strategy : SearchStrategy) : Prop where
  named : Text.trim strategy.id ≠ ""
  subclasses : Cpc.normalize strategy.cpcSubclasses ≠ []
  tokens : Tokens.ofFamilies strategy.termFamilies ≠ []
  wordless : Plan.givenTerms strategy = []

/-- The strategies differ in their phrases at most, and where the broad query hangs on a phrase both
have one or none has. -/
structure AlikeButPhrases (strategy other : SearchStrategy) : Prop where
  agrees : strategy.AgreesButPhrases other
  steady : strategy.HangsOnPhrases →
    (Plan.givenPhrases strategy = [] ↔ Plan.givenPhrases other = [])

end SearchStrategy

namespace Plan

/-! ## The broad query of one strategy -/

/-- The broad queries of a plan, in their order. -/
def broadOf (plan : List PlannedQuery) : List PlannedQuery :=
  plan.filter (·.kind.isBroad)

/-- A strategy with an identifier has the broad query that it calls for, as long as it has a phrase
or a term. -/
theorem broadOf_ofStrategy (strategy : SearchStrategy) :
    broadOf (ofStrategy strategy) =
      if Text.trim strategy.id = "" ∨ givenPhrases strategy = [] ∧ givenTerms strategy = [] then []
      else broadQueries strategy := by
  have narrow : (narrowQueries strategy).filter (·.kind.isBroad) = [] :=
    List.filter_eq_nil_iff.2 fun item member => by
      simp [((isNarrow_narrowQueries strategy).of_mem member).2]
  have broad : (broadQueries strategy).filter (·.kind.isBroad) = broadQueries strategy :=
    List.filter_eq_self.2 fun item member => ((isBroad_broadQueries strategy).of_mem member).2.1
  rw [ofStrategy_eq_append]
  simp only [narrowQueries_eq_nil_iff]
  split
  case isTrue => rfl
  case isFalse => rw [broadOf, List.filter_append, narrow, broad, List.nil_append]

/-! ## Two strategies that differ in their phrases -/

section Alike

variable {strategy other : SearchStrategy}

/-- Without a term, a strategy calls for a broad query only if that hangs on its phrases. -/
theorem hangsOnPhrases_of_broadQueries_ne_nil (named : Text.trim strategy.id ≠ "")
    (wordless : givenTerms strategy = []) (called : broadQueries strategy ≠ []) :
    strategy.HangsOnPhrases where
  named := named
  subclasses := fun wide => called (by simp [broadQueries, wide, wordless])
  tokens := fun none => called (by simp [broadQueries, none, wordless])
  wordless := wordless

theorem broadOf_eq_of_alike (alike : strategy.AlikeButPhrases other) :
    broadOf (ofStrategy strategy) = broadOf (ofStrategy other) := by
  have id : other.id = strategy.id := by rw [alike.agrees]
  have terms : givenTerms other = givenTerms strategy := by
    rw [alike.agrees]
    rfl
  have called : broadQueries other = broadQueries strategy := by
    rw [alike.agrees]
    rfl
  simp only [broadOf_ofStrategy, id, terms, called]
  by_cases unnamed : Text.trim strategy.id = ""
  · simp only [unnamed, true_or]
  by_cases wordless : givenTerms strategy = []
  case neg => simp only [wordless, and_false]
  by_cases none : broadQueries strategy = []
  · simp only [none, ite_self]
  · simp only [alike.steady (hangsOnPhrases_of_broadQueries_ne_nil unnamed wordless none)]

end Alike

/-! ## The broad queries of a list of strategies -/

theorem forall₂_byPriority {related : SearchStrategy → SearchStrategy → Prop}
    (same : ∀ {strategy other}, related strategy other → strategy.priority = other.priority)
    {strategies others : List SearchStrategy} (each : List.Forall₂ related strategies others) :
    List.Forall₂ related (byPriority strategies) (byPriority others) := by
  have filtered (priority : Priority) :
      List.Forall₂ related (strategies.filter (·.priority = priority))
        (others.filter (·.priority = priority)) :=
    List.rel_filter (fun strategy other pair => by simp only [same pair]) each
  simp only [byPriority, List.flatMap_cons, List.flatMap_nil]
  exact List.rel_append (filtered _) (List.rel_append (filtered _)
    (List.rel_append (filtered _) .nil))

theorem broadOf_ofStrategies (strategies : List SearchStrategy) :
    broadOf (ofStrategies strategies) =
      (byPriority strategies).flatMap fun strategy => broadOf (ofStrategy strategy) := by
  rw [ofStrategies, inOrder_eq_byPriority, broadOf, List.filter_flatMap]
  rfl

/-- The broad query of a strategy is in the plan if the strategy has an identifier, subclasses and
tokens, and also a phrase or a term. -/
theorem mem_ofStrategies_of_tokens {strategies : List SearchStrategy} {strategy : SearchStrategy}
    (member : strategy ∈ strategies) (named : Text.trim strategy.id ≠ "")
    (subclasses : Cpc.normalize strategy.cpcSubclasses ≠ [])
    (tokens : Tokens.ofFamilies strategy.termFamilies ≠ [])
    (worded : givenPhrases strategy ≠ [] ∨ givenTerms strategy ≠ []) :
    ⟨Text.trim strategy.id ++ "_broad", Text.trim strategy.id, .broad,
      ⟨.anyWord, " ".intercalate (Tokens.ofFamilies strategy.termFamilies),
        Cpc.normalize strategy.cpcSubclasses⟩⟩ ∈ ofStrategies strategies := by
  have asks : ¬(Text.trim strategy.id = "" ∨
      givenPhrases strategy = [] ∧ givenTerms strategy = []) := by
    simpa only [not_or, not_and_or] using And.intro named worded
  refine (List.mem_filter (p := (·.kind.isBroad)).1 ?_).1
  rw [← broadOf, broadOf_ofStrategies]
  refine List.mem_flatMap.2 ⟨strategy, mem_byPriority.2 member, ?_⟩
  rw [broadOf_ofStrategy, if_neg asks]
  simp [broadQueries, subclasses, tokens]

/-- The broad queries of a plan are those that its strategies call for, unless they have no
identifier or neither a phrase nor a term. They stay the same where only the phrases are others and
no broad query hangs on these. -/
structure SearchesBroadly (strategies : List SearchStrategy) (plan : List PlannedQuery) :
    Prop where
  broad : broadOf plan = (byPriority strategies).flatMap fun strategy =>
    if Text.trim strategy.id = "" ∨ givenPhrases strategy = [] ∧ givenTerms strategy = [] then []
    else broadQueries strategy
  independent : ∀ others, List.Forall₂ SearchStrategy.AlikeButPhrases strategies others →
    broadOf (ofStrategies others) = broadOf plan
  present : ∀ strategy ∈ strategies, Text.trim strategy.id ≠ "" →
    Cpc.normalize strategy.cpcSubclasses ≠ [] → Tokens.ofFamilies strategy.termFamilies ≠ [] →
      givenPhrases strategy ≠ [] ∨ givenTerms strategy ≠ [] →
        ⟨Text.trim strategy.id ++ "_broad", Text.trim strategy.id, .broad,
          ⟨.anyWord, " ".intercalate (Tokens.ofFamilies strategy.termFamilies),
            Cpc.normalize strategy.cpcSubclasses⟩⟩ ∈ plan

/-- **The broad queries of a plan** do not depend on the phrases of the strategies, but for those
whose terms are all blank. -/
theorem searchesBroadly_ofStrategies (strategies : List SearchStrategy) :
    SearchesBroadly strategies (ofStrategies strategies) where
  broad := by simp only [broadOf_ofStrategies, broadOf_ofStrategy]
  independent := by
    intro others alike
    have paired := forall₂_byPriority (fun pair => by rw [pair.agrees]) alike
    have each := List.rel_flatMap paired fun _ _ pair =>
      List.forall₂_eq_eq_eq ▸ broadOf_eq_of_alike pair
    rw [broadOf_ofStrategies, broadOf_ofStrategies]
    exact (List.forall₂_eq_eq_eq ▸ each).symm
  present := by
    intro strategy member named subclasses tokens worded
    exact mem_ofStrategies_of_tokens member named subclasses tokens worded

/-! ### A broad query that is left out -/

/-- There is a token to search for, but no term and no phrase. -/
def wordlessStrategy : SearchStrategy :=
  ⟨"Q1", "Cells with a solid electrolyte", .primary, [⟨" ", ["battery"], [], []⟩], [], ["H01M"]⟩

def phrasedStrategy : SearchStrategy :=
  { wordlessStrategy with phrases := ["solid electrolyte"] }

/-- With a phrase, a strategy has a broad query that it lacks without one, though it has subclasses
and a token in both cases. -/
theorem broadOf_wordless :
    wordlessStrategy.AgreesButPhrases phrasedStrategy ∧
      Cpc.normalize wordlessStrategy.cpcSubclasses = ["H01M"] ∧
      Tokens.ofFamilies wordlessStrategy.termFamilies = ["battery"] ∧
      broadOf (ofStrategies [wordlessStrategy]) = [] ∧
      broadOf (ofStrategies [phrasedStrategy]) =
        [⟨"Q1_broad", "Q1", .broad, ⟨.anyWord, "battery", ["H01M"]⟩⟩] := by
  simp only [ofStrategies, inOrder_eq_byPriority]
  decide +kernel

end Plan

end PriorArt
