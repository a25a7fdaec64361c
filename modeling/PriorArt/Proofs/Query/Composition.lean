import PriorArt.Proofs.Query.Parts
import PriorArt.Proofs.Replies
import PriorArt.Proofs.Search.Trail
import PriorArt.Proofs.Strategy.Normal

/-!
# What a plan is made of

The plan for the strategies of a document in normal form, strategy by strategy.

1. `Plan.byPriority`: the order of the strategies (`Plan.inOrder_eq_byPriority`).
2. `Plan.narrowPart`, `Plan.broadPart`: the queries of one strategy (`Plan.ofStrategy_eq`).
3. `Plan.cpcFilter?`: the subclasses that the body of a request names (`Plan.cpcFilter?_body`).
   `Plan.Seeks`: the words that it names, in what way and where (`Plan.seeks_body`).
4. `Plan.Composed`: a plan is made of these parts, and so no strategy goes without a query
   (`Plan.composed_of_normalize`).
5. `Search.run_ne_noQueries`: a search with a plan does not fail for want of one.
-/

namespace PriorArt

namespace Plan

/-! ## The order of the strategies -/

/-- The strategies of one priority after those of another, each as they were given. -/
def byPriority (strategies : List SearchStrategy) : List SearchStrategy :=
  [Priority.primary, .secondary, .tertiary].flatMap fun priority =>
    strategies.filter (·.priority = priority)

theorem mem_byPriority {strategies : List SearchStrategy} {strategy : SearchStrategy} :
    strategy ∈ byPriority strategies ↔ strategy ∈ strategies := by
  constructor
  · intro member
    obtain ⟨priority, -, member⟩ := List.mem_flatMap.1 member
    exact (List.mem_filter.1 member).1
  · intro member
    refine List.mem_flatMap.2 ⟨strategy.priority, ?_, List.mem_filter.2 ⟨member, by simp⟩⟩
    cases strategy.priority <;> simp

/-- Strategies that ascend in rank are those of each priority, one priority after the other. -/
theorem eq_byPriority_of_pairwise {strategies : List SearchStrategy}
    (ascending : strategies.Pairwise fun a b =>
      (compareOn (·.priority.rank) a b).isLE = true) : strategies = byPriority strategies := by
  induction ascending with
  | nil => rfl
  | @cons first rest least _ ih =>
    -- nothing of a higher priority follows
    have none (priority : Priority) (higher : priority.rank < first.priority.rank) :
        rest.filter (·.priority = priority) = [] := by
      rw [List.filter_eq_nil_iff]
      intro other member same
      have least : first.priority.rank ≤ other.priority.rank :=
        Nat.isLE_compare.1 (least other member)
      rw [of_decide_eq_true same] at least
      omega
    simp only [byPriority, List.flatMap_cons, List.flatMap_nil, List.append_nil] at ih ⊢
    cases rank : first.priority with
    | primary => simpa [rank] using ih
    | secondary =>
      have noPrimary := none .primary (by simp [rank, Priority.rank])
      simpa [rank, noPrimary] using ih
    | tertiary =>
      have noPrimary := none .primary (by simp [rank, Priority.rank])
      have noSecondary := none .secondary (by simp [rank, Priority.rank])
      simpa [rank, noPrimary, noSecondary] using ih

theorem inOrder_eq_byPriority (strategies : List SearchStrategy) :
    inOrder strategies = byPriority strategies := by
  have kept (priority : Priority) : (inOrder strategies).filter (·.priority = priority) =
      strategies.filter (·.priority = priority) := by
    refine filter_sortBy (fun a b ha hb => ?_) strategies
    rw [compareOn, of_decide_eq_true ha, of_decide_eq_true hb]
    exact Nat.isLE_compare.2 (Nat.le_refl _)
  have sorted : inOrder strategies = byPriority (inOrder strategies) :=
    eq_byPriority_of_pairwise (pairwise_sortBy _ strategies)
  rw [sorted]
  simp only [byPriority, kept]

/-! ## The queries of one strategy -/

section Parts

variable (strategy : SearchStrategy)

/-- The first few canonical terms, joined by spaces. -/
def joinedTerms (count : Nat) : String :=
  " ".intercalate ((strategy.termFamilies.map (·.canonical)).take count)

/-- A query for each of the first three phrases, or one for the first two terms if there is no
phrase. -/
def narrowPart : List PlannedQuery :=
  if givenPhrases strategy = [] then
    [⟨strategy.id ++ "_narrow_all", strategy.id, .narrowAllTerms,
      ⟨.allWords, joinedTerms strategy 2, strategy.cpcSubclasses⟩⟩]
  else
    ((givenPhrases strategy).take 3).mapIdx fun position phrase =>
      ⟨strategy.id ++ "_narrow_p" ++ toString (position + 1), strategy.id, .narrowPhrase,
        ⟨.phrase, phrase, strategy.cpcSubclasses⟩⟩

/-- With subclasses a query for any of the tokens, if there are tokens, and without subclasses one
for the first three terms. -/
def broadPart : List PlannedQuery :=
  let query (operator : TextOperator) (text : String) : PlannedQuery :=
    ⟨strategy.id ++ "_broad", strategy.id, .broad, ⟨operator, text, strategy.cpcSubclasses⟩⟩
  if strategy.cpcSubclasses = [] then [query .allWords (joinedTerms strategy 3)]
  else if Tokens.ofFamilies strategy.termFamilies = [] then []
  else [query .anyWord (" ".intercalate (Tokens.ofFamilies strategy.termFamilies))]

theorem narrowPart_ne_nil : narrowPart strategy ≠ [] := by
  unfold narrowPart
  split
  case isTrue => simp
  case isFalse given => simpa using given

end Parts

section Normal

variable {strategy : SearchStrategy} (normal : strategy.IsNormal)

include normal

theorem givenTerms_of_isNormal :
    givenTerms strategy = strategy.termFamilies.map (·.canonical) := by
  have trimmed : (strategy.termFamilies.map (·.canonical)).map Text.trim =
      strategy.termFamilies.map (·.canonical) := by
    rw [List.map_map]
    exact List.map_congr_left fun family member => (normal.terms family member).1
  unfold givenTerms
  rw [trimmed, List.filter_eq_self]
  intro term member
  obtain ⟨family, inFamilies, rfl⟩ := List.mem_map.1 member
  exact decide_eq_true (normal.terms family inFamilies).2

theorem narrowQueries_of_isNormal : narrowQueries strategy = narrowPart strategy := by
  have terms : givenTerms strategy ≠ [] := by
    simp [givenTerms_of_isNormal normal, normal.families]
  unfold narrowQueries narrowPart
  dsimp only
  rw [normal.id, normal.cpcSubclasses]
  by_cases given : givenPhrases strategy = []
  · rw [if_neg (not_not_intro given), if_pos terms, if_pos given, givenTerms_of_isNormal normal,
      joinedTerms]
  · rw [if_pos given, if_neg given]

theorem broadQueries_of_isNormal : broadQueries strategy = broadPart strategy := by
  unfold broadQueries broadPart
  rw [normal.id, normal.cpcSubclasses, givenTerms_of_isNormal normal]
  by_cases wide : strategy.cpcSubclasses = []
  · simp [wide, normal.families, joinedTerms]
  · simp [wide]

theorem ofStrategy_eq : ofStrategy strategy = narrowPart strategy ++ broadPart strategy := by
  rw [ofStrategy_eq_append, narrowQueries_of_isNormal normal, broadQueries_of_isNormal normal,
    normal.id, if_neg (not_or.2 ⟨normal.named, narrowPart_ne_nil strategy⟩)]

end Normal

/-! ## What the body of a request names -/

/-- The subclasses to which the body of a request limits the patents, if it does. -/
def cpcFilter? (body : Json) : Option Json := do
  let condition ← body.member? "q"
  let both ← condition.member? "_and"
  let parts ← both.items?
  let limit ← parts[1]?
  limit.member? "cpc_at_issue.cpc_subclass_id"

theorem cpcFilter?_body (query : TextQuery) :
    cpcFilter? query.body =
      if query.cpcSubclasses = [] then none else some (Json.strings query.cpcSubclasses) := by
  unfold TextQuery.body TextQuery.condition
  by_cases wide : query.cpcSubclasses = []
  · simp [wide, cpcFilter?, Json.member?, List.lookup_cons]
  · simp [wide, cpcFilter?, Json.member?, Json.items?]

/-- The body of a request is for patents whose title or abstract has the words of a text, in the way
that an operator says, and, where subclasses are given, for those of them that are in one. -/
def Seeks (body : Json) (operator text : String) (subclasses : List String) : Prop :=
  let words : Json := .object [("_or", .array
    [.object [(operator, .object [("patent_title", .string text)])],
      .object [(operator, .object [("patent_abstract", .string text)])]])]
  body.member? "q" = some (if subclasses = [] then words
    else .object [("_and", .array [words,
      .object [("cpc_at_issue.cpc_subclass_id", .array (subclasses.map .string))]])])

theorem seeks_body (query : TextQuery) :
    Seeks query.body query.operator.name query.text query.cpcSubclasses := by
  unfold Seeks TextQuery.body TextQuery.condition
  by_cases wide : query.cpcSubclasses = []
  · simp [wide, Json.member?, TextQuery.clause]
  · simp [wide, Json.member?, TextQuery.clause, Json.strings]

/-- The operator of a query of some kind, for a strategy with some subclasses. -/
def operatorFor (kind : QueryKind) (subclasses : List String) : String :=
  match kind with
  | .narrowPhrase => "_text_phrase"
  | .narrowAllTerms => "_text_all"
  | .broad => if subclasses = [] then "_text_all" else "_text_any"

/-- All queries of a strategy name its subclasses, and the kind of a query says how it names the
words. -/
theorem named_of_mem {strategy : SearchStrategy} {item : PlannedQuery}
    (member : item ∈ narrowPart strategy ++ broadPart strategy) :
    item.strategyId = strategy.id ∧ item.query.cpcSubclasses = strategy.cpcSubclasses ∧
      item.query.operator.name = operatorFor item.kind strategy.cpcSubclasses := by
  rcases List.mem_append.1 member with narrow | broad
  · unfold narrowPart at narrow
    split at narrow
    · cases List.mem_singleton.1 narrow
      exact ⟨rfl, rfl, rfl⟩
    · obtain ⟨position, inside, rfl⟩ := List.mem_mapIdx.1 narrow
      exact ⟨rfl, rfl, rfl⟩
  · unfold broadPart at broad
    dsimp only at broad
    split at broad
    case isTrue wide =>
      cases List.mem_singleton.1 broad
      exact ⟨rfl, rfl, (if_pos wide).symm⟩
    case isFalse limited =>
      split at broad
      · cases broad
      · cases List.mem_singleton.1 broad
        exact ⟨rfl, rfl, (if_neg limited).symm⟩

/-! ## The plan -/

/-- A plan has the queries of its strategies in the order of the priorities, and so some for each
strategy, and the first for one of the first priority. Those of a strategy with subclasses are
limited to them, and no others are limited. The body of each request names the words of the query,
in the way that belongs to its kind. -/
structure Composed (strategies : List SearchStrategy) (plan : List PlannedQuery) : Prop where
  parts : plan = (byPriority strategies).flatMap fun strategy =>
    narrowPart strategy ++ broadPart strategy
  filters : ∀ strategy ∈ strategies, ∀ item ∈ narrowPart strategy ++ broadPart strategy,
    item.strategyId = strategy.id ∧
      cpcFilter? item.query.body =
        if strategy.cpcSubclasses = [] then none else some (Json.strings strategy.cpcSubclasses)
  bodies : ∀ strategy ∈ strategies, ∀ item ∈ narrowPart strategy ++ broadPart strategy,
    Seeks item.query.body (operatorFor item.kind strategy.cpcSubclasses) item.query.text
      strategy.cpcSubclasses
  served : ∀ strategy ∈ strategies, ∃ item ∈ plan,
    item ∈ narrowPart strategy ++ broadPart strategy
  first : ∃ strategy ∈ strategies, strategy.priority = .primary ∧
    ∃ item rest, plan = item :: rest ∧ item ∈ narrowPart strategy ++ broadPart strategy

theorem composed_of_isNormal {strategies : List SearchStrategy}
    (normal : ∀ strategy ∈ strategies, strategy.IsNormal)
    (primary : ∃ strategy ∈ strategies, strategy.priority = .primary) :
    Composed strategies (ofStrategies strategies) := by
  have parts : ofStrategies strategies = (byPriority strategies).flatMap fun strategy =>
      narrowPart strategy ++ broadPart strategy := by
    unfold ofStrategies
    rw [inOrder_eq_byPriority]
    refine List.flatMap_congr fun strategy member => ?_
    exact ofStrategy_eq (normal strategy (mem_byPriority.1 member))
  constructor
  case parts => exact parts
  case filters =>
    intro strategy _ item member
    obtain ⟨owner, named, -⟩ := named_of_mem member
    rw [cpcFilter?_body, named]
    exact ⟨owner, rfl⟩
  case bodies =>
    intro strategy _ item member
    obtain ⟨-, named, operator⟩ := named_of_mem member
    rw [← operator, ← named]
    exact seeks_body item.query
  case served =>
    intro strategy member
    obtain ⟨item, ofNarrow⟩ := List.exists_mem_of_ne_nil _ (narrowPart_ne_nil strategy)
    have ofStrategy := List.mem_append_left (broadPart strategy) ofNarrow
    refine ⟨item, ?_, ofStrategy⟩
    rw [parts]
    exact List.mem_flatMap.2 ⟨strategy, mem_byPriority.2 member, ofStrategy⟩
  case first =>
    obtain ⟨strategy, member, isPrimary⟩ := primary
    cases ofPrimary : strategies.filter (·.priority = .primary) with
    | nil =>
      have none := List.filter_eq_nil_iff.1 ofPrimary strategy member
      exact absurd (decide_eq_true isPrimary) none
    | cons leader others =>
      have leads : leader ∈ strategies.filter (·.priority = .primary) := by simp [ofPrimary]
      obtain ⟨member, isPrimary⟩ := List.mem_filter.1 leads
      obtain ⟨item, rest, queries⟩ := List.exists_cons_of_ne_nil (narrowPart_ne_nil leader)
      refine ⟨leader, member, of_decide_eq_true isPrimary, item, ?_⟩
      rw [parts, byPriority, List.flatMap_cons, ofPrimary, List.cons_append, List.flatMap_cons,
        queries]
      exact ⟨_, rfl, by simp⟩

end Plan

namespace Search

theorem note_ne_noQueries {settings : SearchSettings} {progress : Progress} {item : PlannedQuery}
    {result : QueryResult} : progress.note settings item result ≠ .error .noQueries := by
  obtain ⟨failure | response, attempts⟩ := result
  · unfold Progress.note Progress.fail
    dsimp only
    split
    · simp
    · split
      · split <;> simp
      · simp
  · simp [Progress.note]

theorem run_ne_noQueries {settings : SearchSettings} {strategies : List SearchStrategy}
    (planned : Plan.ofStrategies strategies ≠ []) (service : Service) :
    (run settings strategies service).1 ≠ .error .noQueries := by
  obtain ⟨log, rest, stand, -, -, ends⟩ := sendAll_trail settings (Plan.ofStrategies strategies)
    (Gate.opening settings.requestsPerMinute service.clock.now) .empty service
  unfold run
  split
  case h_1 none => exact absurd none planned
  case h_2 =>
    dsimp only
    generalize sendAll settings _ .empty _ service = sent at ends
    obtain ⟨error | progress, after⟩ := sent
    · intro same
      cases same
      cases ends with
      | givenUp _ _ _ noted => exact note_ne_noQueries noted
    · unfold conclude
      dsimp only
      split <;> simp

end Search

namespace Plan

theorem ofStrategies_ne_nil_of_normalize {document strategy : StrategyDocument}
    (normal : document.normalize = .ok strategy) : ofStrategies strategy.strategies ≠ [] := by
  obtain ⟨each, primary⟩ := StrategyDocument.strategies_of_normalize normal
  obtain ⟨_, -, -, item, rest, plan, -⟩ := (composed_of_isNormal each primary).first
  rw [plan]
  exact List.cons_ne_nil item rest

/-- **The plan of a document in normal form.** It is made of a narrow and a broad part for each
strategy, and so a search with a strategy that was planned does not fail for want of queries. -/
theorem composed_of_normalize {document strategy : StrategyDocument}
    (normal : document.normalize = .ok strategy) :
    Composed strategy.strategies (ofStrategies strategy.strategies) ∧
      (∀ settings service,
        (Search.run settings strategy.strategies service).1 ≠ .error .noQueries) ∧
      ∀ budget request reasoner planned,
        (Planning.run budget request reasoner).1.output = .ok planned →
          ∀ settings service,
            (Search.run settings planned.strategies service).1 ≠ .error .noQueries := by
  obtain ⟨each, primary⟩ := StrategyDocument.strategies_of_normalize normal
  refine ⟨composed_of_isNormal each primary, ?_, ?_⟩
  · intro settings service
    exact Search.run_ne_noQueries (ofStrategies_ne_nil_of_normalize normal) service
  · intro budget request reasoner planned ok settings service
    obtain ⟨_, ofReply⟩ := Planning.normalize_of_run ok
    exact Search.run_ne_noQueries (ofStrategies_ne_nil_of_normalize ofReply) service

/-! ### A document with strategies of all kinds -/

/-- The first strategy has a subclass that is written twice and no phrase, the second none of its
own words among the tokens, and the third no subclass. -/
def quayDocument : StrategyDocument :=
  { title := "A quay that floats"
    summary := "A quay on pontoons that rises and falls with the tide."
    elements :=
      [⟨"ne1", "Pontoons made of concrete"⟩, ⟨"ne2", "Chains with a damper"⟩,
        ⟨"ne3", "Ramps with two hinges"⟩]
    domains := ["harbours"]
    strategies :=
      [⟨"A", "Pontoons below a quay", .tertiary, [⟨" Pontoon-AI ", [], ["AI"], []⟩], [" "],
          [" e02b", "E02B", "E02B 3/06"]⟩,
        ⟨"B", "Chains below the quay", .secondary, [⟨"System", [], [], []⟩], ["chain damper"],
          ["B63B"]⟩,
        ⟨" C ", "Ramps to a moving quay", .primary,
          [⟨"ramp", [], [], []⟩, ⟨"hinge ", [], [], []⟩, ⟨"tide", [], [], []⟩,
            ⟨"quay", [], [], []⟩],
          ["one", " ", "two", " three", "four"], ["ramp"]⟩]
    confidence := .zero
    confidenceReason := "Clear text" }

/-- The strategy of the first priority comes first, and the one whose only term is a common word has
no broad query. -/
def quayQueries : List (String × TextQuery) :=
  [("C_narrow_p1", ⟨.phrase, "one", []⟩), ("C_narrow_p2", ⟨.phrase, "two", []⟩),
    ("C_narrow_p3", ⟨.phrase, "three", []⟩), ("C_broad", ⟨.allWords, "ramp hinge tide", []⟩),
    ("B_narrow_p1", ⟨.phrase, "chain damper", ["B63B"]⟩),
    ("A_narrow_all", ⟨.allWords, "Pontoon-AI", ["E02B"]⟩),
    ("A_broad", ⟨.anyWord, "pontoon ai", ["E02B"]⟩)]

/-- The plan of the document, with the condition of its last request in full. -/
theorem composed_of_normalize_quay : ∃ strategy,
    quayDocument.normalize = .ok strategy ∧
      Composed strategy.strategies (ofStrategies strategy.strategies) ∧
      (ofStrategies strategy.strategies).map (fun item => (item.id, item.query)) =
        quayQueries ∧
      ∃ item ∈ ofStrategies strategy.strategies, item.id = "A_broad" ∧
        item.query.body.member? "q" = some (.object [("_and", .array
          [.object [("_or", .array
              [.object [("_text_any", .object [("patent_title", .string "pontoon ai")])],
                .object [("_text_any", .object [("patent_abstract", .string "pontoon ai")])]])],
            .object [("cpc_at_issue.cpc_subclass_id", .array [.string "E02B"])]])]) := by
  have queries : quayDocument.normalize.toOption.map (fun strategy =>
      (byPriority strategy.strategies).flatMap fun s =>
        (ofStrategy s).map fun item => (item.id, item.query)) = some quayQueries := by
    decide +kernel
  cases normal : quayDocument.normalize with
  | error violation => simp [normal, Except.toOption] at queries
  | ok strategy =>
    rw [normal] at queries
    have planned : (ofStrategies strategy.strategies).map (fun item => (item.id, item.query)) =
        quayQueries := by
      rw [ofStrategies, inOrder_eq_byPriority, List.map_flatMap]
      exact Option.some.inj queries
    refine ⟨strategy, rfl, (composed_of_normalize normal).1, planned, ?_⟩
    have last : ("A_broad", ⟨.anyWord, "pontoon ai", ["E02B"]⟩) ∈ quayQueries := by decide
    obtain ⟨item, member, same⟩ := List.mem_map.1 (planned ▸ last)
    obtain ⟨id, query⟩ := Prod.mk.inj same
    refine ⟨item, member, id, ?_⟩
    rw [query]
    exact seeks_body _

end Plan

end PriorArt
