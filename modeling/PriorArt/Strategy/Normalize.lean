import PriorArt.Strategy.Cpc
import PriorArt.Strategy.Document
import PriorArt.Violation

/-!
# Normal form of a strategy document

A document is brought into normal form by trimming its texts, cutting those that are too long and
dropping invalid CPC codes. Everything else that is wrong with it is a violation, and the first one
in reading order is reported.
-/

namespace PriorArt

namespace StrategyDocument

def leastTitle : Nat := 10
def mostTitle : Nat := 200
def leastSummary : Nat := 50
def mostSummary : Nat := 500
def leastReason : Nat := 10
def mostDomains : Nat := 5
def leastElements : Nat := 3
def mostElements : Nat := 10
def leastStrategies : Nat := 3
def mostStrategies : Nat := 5

end StrategyDocument

def require (holds : Bool) (violation : Violation) : Except Violation Unit :=
  if holds then .ok () else .error violation

/-- Fails unless the trimmed text has at least the given number of characters. -/
def requireSize (field : Field) (least : Nat) (text : String) : Except Violation Unit :=
  require (least ≤ Text.size text) (.tooShort field least)

def requireCount (field : Field) (least most actual : Nat) : Except Violation Unit :=
  require (least ≤ actual && actual ≤ most) (.count field least most actual)

namespace NovelElement

def leastDescription : Nat := 20
def mostDescription : Nat := 300

/-- The identifier of the element at a position, counted from zero. -/
def idAt (position : Nat) : String :=
  "NE" ++ toString (position + 1)

/-- The normal form of the element at a position, where `seen` are the identifiers before it. -/
def normalize (seen : List String) (position : Nat) (element : NovelElement) :
    Except Violation NovelElement := do
  let id := Text.upper (Text.trim element.id)
  let description := Text.clamp mostDescription element.description
  require (!seen.contains id) (.repeatedElement id)
  require (id = idAt position) (.elementOutOfOrder (idAt position) id)
  requireSize (.elementDescription id) leastDescription description
  return { id, description }

def normalizeFrom (seen : List String) (position : Nat) :
    List NovelElement → Except Violation (List NovelElement)
  | [] => .ok []
  | element :: rest => do
    let element ← element.normalize seen position
    let rest ← normalizeFrom (element.id :: seen) (position + 1) rest
    return element :: rest

end NovelElement

namespace TermFamily

def mostSynonyms : Nat := 8
def mostAcronyms : Nat := 4
def mostVariants : Nat := 4

def normalize (id : String) (family : TermFamily) : Except Violation TermFamily := do
  let term := Text.trim family.canonical
  require (!term.isEmpty) (.familyWithoutTerm id)
  requireCount (.synonyms id term) 0 mostSynonyms family.synonyms.length
  requireCount (.acronyms id term) 0 mostAcronyms family.acronyms.length
  requireCount (.variants id term) 0 mostVariants family.variants.length
  return { family with canonical := term }

end TermFamily

namespace SearchStrategy

def leastDescription : Nat := 20
def mostDescription : Nat := 200
def mostTermFamilies : Nat := 8
def mostPhrases : Nat := 5
def mostCpcSubclasses : Nat := 5

def normalize (strategy : SearchStrategy) : Except Violation SearchStrategy := do
  let id := Text.trim strategy.id
  let description := Text.clamp mostDescription strategy.description
  require (!id.isEmpty) .strategyWithoutId
  requireSize (.strategyDescription id) leastDescription description
  requireCount (.termFamilies id) 1 mostTermFamilies strategy.termFamilies.length
  requireCount (.phrases id) 0 mostPhrases strategy.phrases.length
  requireCount (.cpcSubclasses id) 0 mostCpcSubclasses strategy.cpcSubclasses.length
  let termFamilies ← strategy.termFamilies.mapM (TermFamily.normalize id)
  return {
    id, description, termFamilies
    priority := strategy.priority
    phrases := strategy.phrases.map Text.trim
    cpcSubclasses := Cpc.normalize strategy.cpcSubclasses }

end SearchStrategy

namespace StrategyDocument

def normalizeDomain (domain : String) : Except Violation String := do
  let domain := Text.trim domain
  require (!domain.isEmpty) .blankDomain
  return domain

def normalize (document : StrategyDocument) : Except Violation StrategyDocument := do
  let title := Text.clamp mostTitle document.title
  let summary := Text.clamp mostSummary document.summary
  let confidenceReason := Text.trim document.confidenceReason
  requireSize .title leastTitle title
  requireSize .summary leastSummary summary
  require document.confidence.inUnitInterval (.outOfRange .confidence)
  requireSize .confidenceReason leastReason confidenceReason
  requireCount .domains 1 mostDomains document.domains.length
  let domains ← document.domains.mapM normalizeDomain
  requireCount .elements leastElements mostElements document.elements.length
  let elements ← NovelElement.normalizeFrom [] 0 document.elements
  requireCount .strategies leastStrategies mostStrategies document.strategies.length
  let strategies ← document.strategies.mapM SearchStrategy.normalize
  require (strategies.any (·.priority = .primary)) .noPrimaryStrategy
  return {
    title, summary, elements, domains, strategies, confidenceReason
    confidence := document.confidence }

end StrategyDocument

end PriorArt
