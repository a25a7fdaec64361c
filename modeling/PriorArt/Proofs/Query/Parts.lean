import PriorArt.Query.Plan

/-!
# The queries of one strategy

What the queries of a strategy are is said here once, for any strategy; other modules go by it.

1. `Plan.givenPhrases`, `Plan.givenTerms`: the phrases and canonical terms that count.
2. `Plan.narrowQueries`, `Plan.broadQueries`: the two parts of the queries. Without a narrow query
   there is no broad one either (`Plan.ofStrategy_eq_append`).
3. `Plan.IsNarrow`, `Plan.IsBroad`: the identifiers and kinds of the queries of a part
   (`Plan.isNarrow_narrowQueries`, `Plan.isBroad_broadQueries`).
-/

namespace PriorArt

namespace Plan

/-! ## The two parts -/

section Queries

variable (strategy : SearchStrategy)

def givenPhrases : List String :=
  (strategy.phrases.map Text.trim).filter (· ≠ "")

def givenTerms : List String :=
  ((strategy.termFamilies.map (·.canonical)).map Text.trim).filter (· ≠ "")

/-- A query for each of the first three phrases, or one for the first two terms if there is no
phrase. -/
def narrowQueries : List PlannedQuery :=
  let id := Text.trim strategy.id
  let cpcs := Cpc.normalize strategy.cpcSubclasses
  if givenPhrases strategy ≠ [] then
    ((givenPhrases strategy).take 3).mapIdx fun position phrase =>
      ⟨id ++ "_narrow_p" ++ toString (position + 1), id, .narrowPhrase, ⟨.phrase, phrase, cpcs⟩⟩
  else if givenTerms strategy ≠ [] then
    [⟨id ++ "_narrow_all", id, .narrowAllTerms,
      ⟨.allWords, " ".intercalate ((givenTerms strategy).take 2), cpcs⟩⟩]
  else []

/-- With subclasses a query for any of the tokens, and without subclasses one for the first three
terms, unless there are none. -/
def broadQueries : List PlannedQuery :=
  let id := Text.trim strategy.id
  let cpcs := Cpc.normalize strategy.cpcSubclasses
  let operator : TextOperator := if cpcs = [] then .allWords else .anyWord
  let words := if cpcs = [] then (givenTerms strategy).take 3
    else Tokens.ofFamilies strategy.termFamilies
  if words = [] then [] else [⟨id ++ "_broad", id, .broad, ⟨operator, " ".intercalate words, cpcs⟩⟩]

theorem firstTexts_eq (limit : Nat) (texts : List String) :
    firstTexts limit texts = ((texts.map Text.trim).filter (· ≠ "")).take limit := by
  unfold firstTexts
  refine congrArg (List.take limit) (List.filter_congr fun text _ => ?_)
  by_cases blank : text = "" <;> simp [blank]

theorem terms?_eq {limit : Nat} (positive : limit ≠ 0) :
    terms? limit strategy =
      if givenTerms strategy = [] then none
      else some (" ".intercalate ((givenTerms strategy).take limit)) := by
  have first : firstTexts limit (strategy.termFamilies.map (·.canonical)) =
      (givenTerms strategy).take limit := firstTexts_eq ..
  unfold terms?
  rw [first]
  by_cases none : givenTerms strategy = []
  · simp [none]
  · rw [if_neg none]
    split
    case h_1 cut => exact absurd (List.take_eq_nil_iff.1 cut) (not_or.2 ⟨positive, none⟩)
    case h_2 => rfl

theorem phraseQueries_eq_mapIdx (id : String) (cpcs phrases : List String) (position : Nat) :
    phraseQueries id cpcs position phrases =
      phrases.mapIdx fun further phrase =>
        ⟨id ++ "_narrow_p" ++ toString (position + further + 1), id, .narrowPhrase,
          ⟨.phrase, phrase, cpcs⟩⟩ := by
  induction phrases generalizing position with
  | nil => rfl
  | cons phrase rest ih =>
    rw [phraseQueries, ih, List.mapIdx_cons]
    simp only [Nat.add_zero, Nat.add_assoc, Nat.add_comm 1]

theorem broadItem_eq_broadQueries :
    broadItem (Text.trim strategy.id) (Cpc.normalize strategy.cpcSubclasses) strategy =
      broadQueries strategy := by
  have terms : terms? broadTerms strategy = _ := terms?_eq strategy (by decide)
  unfold broadItem broadQuery? broadQueries
  rw [terms]
  by_cases wide : Cpc.normalize strategy.cpcSubclasses = []
  · by_cases none : givenTerms strategy = []
    · simp [wide, none]
    · simp [wide, none, broadTerms]
  · cases tokens : Tokens.ofFamilies strategy.termFamilies with
    | nil => simp [wide]
    | cons token rest => simp [wide]

/-- A strategy without an identifier has no queries, and neither has one without narrow queries. -/
theorem ofStrategy_eq_append :
    ofStrategy strategy =
      if Text.trim strategy.id = "" ∨ narrowQueries strategy = [] then []
      else narrowQueries strategy ++ broadQueries strategy := by
  have terms : terms? narrowTerms strategy = _ := terms?_eq strategy (by decide)
  have phrases : firstTexts mostPhrases strategy.phrases = (givenPhrases strategy).take 3 :=
    firstTexts_eq ..
  unfold ofStrategy narrowQueries
  dsimp only
  rw [phrases, terms, broadItem_eq_broadQueries]
  by_cases unnamed : Text.trim strategy.id = ""
  · simp [unnamed]
  by_cases silent : givenPhrases strategy = []
  · by_cases wordless : givenTerms strategy = []
    · simp [silent, wordless]
    · simp [silent, wordless, unnamed, narrowTerms]
  · cases given : (givenPhrases strategy).take 3 with
    | nil => simp [silent] at given
    | cons phrase rest => simp [silent, unnamed, phraseQueries_eq_mapIdx]

theorem narrowQueries_eq_nil_iff :
    narrowQueries strategy = [] ↔ givenPhrases strategy = [] ∧ givenTerms strategy = [] := by
  unfold narrowQueries
  by_cases silent : givenPhrases strategy = []
  · by_cases wordless : givenTerms strategy = [] <;> simp [silent, wordless]
  · simp [silent]

end Queries

theorem mem_ofStrategy_cases {strategy : SearchStrategy} {item : PlannedQuery}
    (member : item ∈ ofStrategy strategy) :
    Text.trim strategy.id ≠ "" ∧
      (item ∈ narrowQueries strategy ∨ item ∈ broadQueries strategy) := by
  rw [ofStrategy_eq_append] at member
  split at member
  case isTrue => cases member
  case isFalse some => exact ⟨(not_or.1 some).1, List.mem_append.1 member⟩

/-! ## Identifiers and kinds -/

/-- The queries for phrases are numbered from one, and there are at most three. The query for terms
is the only narrow one. -/
inductive IsNarrow (id : String) : List PlannedQuery → Prop
  | phrases {phrases cpcs : List String} (few : phrases.length ≤ 3) :
      IsNarrow id (phrases.mapIdx fun position phrase =>
        ⟨id ++ "_narrow_p" ++ toString (position + 1), id, .narrowPhrase,
          ⟨.phrase, phrase, cpcs⟩⟩)
  | terms (query : TextQuery) :
      IsNarrow id [⟨id ++ "_narrow_all", id, .narrowAllTerms, query⟩]

/-- There is at most one broad query. -/
inductive IsBroad (id : String) : List PlannedQuery → Prop
  | none : IsBroad id []
  | one (query : TextQuery) : IsBroad id [⟨id ++ "_broad", id, .broad, query⟩]

section Parts

variable {id : String} {items : List PlannedQuery}

theorem isNarrow_nil : IsNarrow id [] :=
  @IsNarrow.phrases id [] [] (Nat.zero_le 3)

theorem IsNarrow.length_le (narrow : IsNarrow id items) : items.length ≤ 3 := by
  cases narrow with
  | phrases few => rwa [List.length_mapIdx]
  | terms => simp

theorem IsBroad.length_le (broad : IsBroad id items) : items.length ≤ 1 := by
  cases broad with
  | none => simp
  | one => simp

theorem IsNarrow.of_mem (narrow : IsNarrow id items) {item : PlannedQuery} (member : item ∈ items) :
    item.strategyId = id ∧ item.kind.isBroad = false := by
  cases narrow with
  | phrases few =>
    obtain ⟨position, inside, rfl⟩ := List.mem_mapIdx.1 member
    exact ⟨rfl, rfl⟩
  | terms =>
    cases List.mem_singleton.1 member
    exact ⟨rfl, rfl⟩

theorem IsBroad.of_mem (broad : IsBroad id items) {item : PlannedQuery} (member : item ∈ items) :
    item.strategyId = id ∧ item.kind.isBroad = true ∧ item.id = id ++ "_broad" := by
  cases broad with
  | none => cases member
  | one =>
    cases List.mem_singleton.1 member
    exact ⟨rfl, rfl, rfl⟩

end Parts

theorem isNarrow_narrowQueries (strategy : SearchStrategy) :
    IsNarrow (Text.trim strategy.id) (narrowQueries strategy) := by
  unfold narrowQueries
  dsimp only
  split
  case isTrue => exact .phrases (List.length_take_le ..)
  case isFalse =>
    split
    case isTrue => exact .terms _
    case isFalse => exact isNarrow_nil

theorem isBroad_broadQueries (strategy : SearchStrategy) :
    IsBroad (Text.trim strategy.id) (broadQueries strategy) := by
  unfold broadQueries
  dsimp only
  -- which words there are does not matter
  generalize (if Cpc.normalize strategy.cpcSubclasses = [] then _ else _ : List String) = words
  split
  case isTrue => exact .none
  case isFalse => exact .one _

end Plan

end PriorArt
