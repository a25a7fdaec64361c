import PriorArt.Order
import PriorArt.Query.Tokens
import PriorArt.Strategy.Cpc

/-!
# The query plan

Each strategy becomes a few full-text queries: narrow ones for its phrases, or for its first terms
if it has no phrase, and a broad one for its tokens or terms. Strategies come in the order of their
priority, and those of one priority in the order they were given.
-/

namespace PriorArt

/-- How the words of a query have to occur in a text. -/
inductive TextOperator where
  | phrase
  | anyWord
  | allWords
  deriving DecidableEq, Inhabited

def TextOperator.name : TextOperator → String
  | .phrase => "_text_phrase"
  | .anyWord => "_text_any"
  | .allWords => "_text_all"

/-- A search for words in titles and abstracts, among the patents of some CPC subclasses if any are
named. -/
structure TextQuery where
  operator : TextOperator
  text : String
  cpcSubclasses : List String
  deriving DecidableEq, Inhabited

inductive QueryKind where
  | narrowPhrase
  | narrowAllTerms
  | broad
  deriving DecidableEq, Inhabited

namespace QueryKind

def name : QueryKind → String
  | .narrowPhrase => "narrow_phrase"
  | .narrowAllTerms => "narrow_all_terms"
  | .broad => "broad"

def isBroad (kind : QueryKind) : Bool :=
  kind = .broad

end QueryKind

/-- A query of the plan, with the identifier of the strategy it serves. -/
structure PlannedQuery where
  id : String
  strategyId : String
  kind : QueryKind
  query : TextQuery
  deriving DecidableEq, Inhabited

namespace Plan

def mostPhrases : Nat := 3

def narrowTerms : Nat := 2

def broadTerms : Nat := 3

def firstTexts (limit : Nat) (texts : List String) : List String :=
  ((texts.map Text.trim).filter fun text => !text.isEmpty).take limit

def terms? (limit : Nat) (strategy : SearchStrategy) : Option String :=
  match firstTexts limit (strategy.termFamilies.map (·.canonical)) with
  | [] => none
  | terms => some (" ".intercalate terms)

/-- The queries for phrases, numbered from a position counted from zero. -/
def phraseQueries (id : String) (cpcs : List String) (position : Nat) :
    List String → List PlannedQuery
  | [] => []
  | phrase :: rest =>
    { id := id ++ "_narrow_p" ++ toString (position + 1)
      strategyId := id
      kind := .narrowPhrase
      query := ⟨.phrase, phrase, cpcs⟩ } :: phraseQueries id cpcs (position + 1) rest

/-- The query for the tokens of the families among the patents of the subclasses, or for the first
terms among all patents if there are no subclasses. -/
def broadQuery? (cpcs : List String) (strategy : SearchStrategy) : Option TextQuery :=
  if cpcs.isEmpty then
    (terms? broadTerms strategy).map fun terms => ⟨.allWords, terms, []⟩
  else
    match Tokens.ofFamilies strategy.termFamilies with
    | [] => none
    | tokens => some ⟨.anyWord, " ".intercalate tokens, cpcs⟩

/-- The broad query as an item of the plan, if there is one. -/
def broadItem (id : String) (cpcs : List String) (strategy : SearchStrategy) :
    List PlannedQuery :=
  match broadQuery? cpcs strategy with
  | none => []
  | some query => [{ id := id ++ "_broad", strategyId := id, kind := .broad, query }]

/-- The queries of one strategy. A strategy without an identifier has none, and so has one without
phrases and terms. -/
def ofStrategy (strategy : SearchStrategy) : List PlannedQuery :=
  let id := Text.trim strategy.id
  if id.isEmpty then []
  else
    let cpcs := Cpc.normalize strategy.cpcSubclasses
    match firstTexts mostPhrases strategy.phrases with
    | [] =>
      match terms? narrowTerms strategy with
      | none => []
      | some terms =>
        { id := id ++ "_narrow_all"
          strategyId := id
          kind := .narrowAllTerms
          query := ⟨.allWords, terms, cpcs⟩ } :: broadItem id cpcs strategy
    | phrases => phraseQueries id cpcs 0 phrases ++ broadItem id cpcs strategy

def inOrder (strategies : List SearchStrategy) : List SearchStrategy :=
  sortBy (compareOn (·.priority.rank)) strategies

def ofStrategies (strategies : List SearchStrategy) : List PlannedQuery :=
  (inOrder strategies).flatMap ofStrategy

end Plan

/-! ## JSON form -/

open Json

namespace TextQuery

def resultFields : List String :=
  ["patent_id", "patent_title", "patent_abstract", "patent_date", "application.filing_date",
    "assignees.assignee_organization", "cpc_at_issue.cpc_subclass_id",
    "inventors.inventor_name_first", "inventors.inventor_name_last"]

def pageSize : Nat := 200

/-- The condition on one field of a patent. -/
def clause (query : TextQuery) (field : String) : Json :=
  .object [(query.operator.name, .object [(field, .string query.text)])]

def condition (query : TextQuery) : Json :=
  let texts : Json :=
    .object [("_or", .array [query.clause "patent_title", query.clause "patent_abstract"])]
  if query.cpcSubclasses.isEmpty then texts
  else
    .object [("_and", .array
      [texts, .object [("cpc_at_issue.cpc_subclass_id", strings query.cpcSubclasses)]])]

/-- The body of the request for the query: the condition, the fields, the order and the size of the
answer. -/
def body (query : TextQuery) : Json :=
  .object
    [("q", query.condition), ("f", strings resultFields),
      ("s", .array
        [.object [("patent_date", .string "desc")], .object [("patent_id", .string "asc")]]),
      ("o", .object [("size", nat pageSize)])]

end TextQuery

def PlannedQuery.toJson (item : PlannedQuery) : Json :=
  .object [("id", .string item.id), ("strategy_id", .string item.strategyId),
    ("kind", .string item.kind.name), ("body", item.query.body)]

end PriorArt
