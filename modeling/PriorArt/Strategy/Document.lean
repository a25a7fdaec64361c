import PriorArt.Json.Decode
import PriorArt.Text.Blank

/-!
# Search strategies

The document in which an invention is summed up and its search is planned: the elements that make
it novel, and a few strategies, each with the vocabulary of one angle on the invention.
-/

namespace PriorArt

/-- The order in which strategies are carried out. -/
inductive Priority where
  | primary
  | secondary
  | tertiary
  deriving DecidableEq, Inhabited

namespace Priority

/-- The lower rank is carried out first. -/
def rank : Priority → Nat
  | .primary => 0
  | .secondary => 1
  | .tertiary => 2

def name : Priority → String
  | .primary => "PRIMARY"
  | .secondary => "SECONDARY"
  | .tertiary => "TERTIARY"

/-- The priority that a text names in any case; what names none is tertiary. -/
def ofText (text : String) : Priority :=
  match Text.upper (Text.trim text) with
  | "PRIMARY" => .primary
  | "SECONDARY" => .secondary
  | _ => .tertiary

@[simp] theorem ofText_name (p : Priority) : ofText p.name = p := by
  cases p <;> decide +kernel

end Priority

/-- An element that sets the invention apart from earlier work. -/
structure NovelElement where
  id : String
  description : String
  deriving DecidableEq, Inhabited

/-- The words for one concept, in the language of disclosures and in that of patents. -/
structure TermFamily where
  canonical : String
  synonyms : List String
  acronyms : List String
  variants : List String
  deriving DecidableEq, Inhabited

/-- One angle from which the invention is searched for. -/
structure SearchStrategy where
  id : String
  description : String
  priority : Priority
  termFamilies : List TermFamily
  phrases : List String
  cpcSubclasses : List String
  deriving DecidableEq, Inhabited

/-- The summary of an invention and the plan of its search. -/
structure StrategyDocument where
  title : String
  summary : String
  elements : List NovelElement
  domains : List String
  strategies : List SearchStrategy
  confidence : Binary64
  confidenceReason : String
  deriving DecidableEq, Inhabited

def StrategyDocument.elementIds (document : StrategyDocument) : List String :=
  document.elements.map (·.id)

/-! ## JSON form -/

open Json

def Priority.toJson (p : Priority) : Json := .string p.name

def Priority.ofJson? (j : Json) : Option Priority := j.string?.map ofText

def NovelElement.fields : Fields := [("id", []), ("description", [])]

def NovelElement.toJson (e : NovelElement) : Json :=
  .object [("id", .string e.id), ("description", .string e.description)]

def NovelElement.ofJson? (j : Json) : Option NovelElement := do
  let r ← record? fields j
  return {
    id := ← r.get? "id" string?
    description := ← r.get? "description" string? }

def TermFamily.fields : Fields :=
  [("canonical", []), ("synonyms", []), ("acronyms", []), ("patent_variants", [])]

def TermFamily.toJson (f : TermFamily) : Json :=
  .object [("canonical", .string f.canonical), ("synonyms", strings f.synonyms),
    ("acronyms", strings f.acronyms), ("patent_variants", strings f.variants)]

def TermFamily.ofJson? (j : Json) : Option TermFamily := do
  let r ← record? fields j
  return {
    canonical := ← r.get? "canonical" string?
    synonyms := ← r.getD? "synonyms" [] strings?
    acronyms := ← r.getD? "acronyms" [] strings?
    variants := ← r.getD? "patent_variants" [] strings? }

def SearchStrategy.fields : Fields :=
  [("id", []), ("description", []), ("priority", []), ("term_families", []), ("phrases", []),
    ("cpc_subclasses", [])]

def SearchStrategy.toJson (s : SearchStrategy) : Json :=
  .object [("id", .string s.id), ("description", .string s.description),
    ("priority", s.priority.toJson), ("term_families", .array (s.termFamilies.map (·.toJson))),
    ("phrases", strings s.phrases), ("cpc_subclasses", strings s.cpcSubclasses)]

def SearchStrategy.ofJson? (j : Json) : Option SearchStrategy := do
  let r ← record? fields j
  return {
    id := ← r.get? "id" string?
    description := ← r.getD? "description" "" string?
    priority := ← r.getD? "priority" .tertiary Priority.ofJson?
    termFamilies := ← r.getD? "term_families" [] (list? TermFamily.ofJson?)
    phrases := ← r.getD? "phrases" [] strings?
    cpcSubclasses := ← r.getD? "cpc_subclasses" [] strings? }

def StrategyDocument.fields : Fields :=
  [("invention_title", []), ("invention_summary", []), ("novel_elements", []),
    ("technology_domains", []), ("query_strategies", ["strategies"]),
    ("confidence_score", ["confidence"]), ("confidence_reason", [])]

def StrategyDocument.toJson (d : StrategyDocument) : Json :=
  .object [("invention_title", .string d.title), ("invention_summary", .string d.summary),
    ("novel_elements", .array (d.elements.map (·.toJson))),
    ("technology_domains", strings d.domains),
    ("query_strategies", .array (d.strategies.map (·.toJson))),
    ("confidence_score", double d.confidence),
    ("confidence_reason", .string d.confidenceReason)]

def StrategyDocument.ofJson? (j : Json) : Option StrategyDocument := do
  let r ← record? fields j
  return {
    title := ← r.get? "invention_title" string?
    summary := ← r.get? "invention_summary" string?
    elements := ← r.get? "novel_elements" (list? NovelElement.ofJson?)
    domains := ← r.getD? "technology_domains" [] strings?
    strategies := ← r.get? "query_strategies" (list? SearchStrategy.ofJson?)
    confidence := ← r.get? "confidence_score" double?
    confidenceReason := ← r.getD? "confidence_reason" "" string? }

end PriorArt
