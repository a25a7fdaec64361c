import PriorArt.Text.Quoted

/-!
# Violations

What can be wrong with the structure of a document or narrative that a model wrote. The message of
a violation is fed back to the model word for word.
-/

namespace PriorArt

/-- A part of a document or narrative that is bounded in length or number. -/
inductive Field where
  | title
  | summary
  | confidence
  | confidenceReason
  | domains
  | elements
  | elementDescription (id : String)
  | strategies
  | strategyDescription (id : String)
  | termFamilies (id : String)
  | phrases (id : String)
  | cpcSubclasses (id : String)
  | synonyms (id term : String)
  | acronyms (id term : String)
  | variants (id term : String)
  | whiteSpace
  deriving DecidableEq

namespace Field

def inStrategy (id part : String) : String :=
  "query_strategies[" ++ id ++ "]." ++ part

def inFamily (id term part : String) : String :=
  inStrategy id ("term_families[" ++ term ++ "]." ++ part)

def path : Field → String
  | .title => "invention_title"
  | .summary => "invention_summary"
  | .confidence => "confidence_score"
  | .confidenceReason => "confidence_reason"
  | .domains => "technology_domains"
  | .elements => "novel_elements"
  | .elementDescription id => "novel_elements[" ++ id ++ "].description"
  | .strategies => "query_strategies"
  | .strategyDescription id => inStrategy id "description"
  | .termFamilies id => inStrategy id "term_families"
  | .phrases id => inStrategy id "phrases"
  | .cpcSubclasses id => inStrategy id "cpc_subclasses"
  | .synonyms id term => inFamily id term "synonyms"
  | .acronyms id term => inFamily id term "acronyms"
  | .variants id term => inFamily id term "patent_variants"
  | .whiteSpace => "white_space"

end Field

/-- A defect in the structure of a document or narrative. -/
inductive Violation where
  | tooShort (field : Field) (least : Nat)
  | count (field : Field) (least most actual : Nat)
  | outOfRange (field : Field)
  | blankDomain
  | repeatedElement (id : String)
  | elementOutOfOrder (expected id : String)
  | strategyWithoutId
  | familyWithoutTerm (id : String)
  | noPrimaryStrategy
  deriving DecidableEq

namespace Violation

def message : Violation → String
  | .tooShort field least => field.path ++ " is shorter than " ++ toString least ++ " characters"
  | .count field least most actual =>
    field.path ++ " must contain between " ++ toString least ++ " and " ++ toString most ++
      " entries, got " ++ toString actual
  | .outOfRange field => field.path ++ " must be between 0.0 and 1.0"
  | .blankDomain => "technology_domains entries must be non-empty"
  | .repeatedElement id => "duplicate novel element id " ++ id
  | .elementOutOfOrder expected id =>
    "novel element ids must be sequential starting at NE1; expected " ++ expected ++ ", got " ++
      Text.quote id
  | .strategyWithoutId => "every query strategy requires an id"
  | .familyWithoutTerm id =>
    "query_strategies[" ++ id ++ "] has a term family without a canonical term"
  | .noPrimaryStrategy => "at least one PRIMARY strategy is required"

end Violation

end PriorArt
