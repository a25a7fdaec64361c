import PriorArt.Strategy.Document
import PriorArt.Text.Lowercase

/-!
# Search tokens

The words of term families as a broad query searches for them: in lower case, each once, without
words too common or too short to find anything. A short word is kept if it is part of an acronym.
-/

namespace PriorArt

namespace Tokens

def most : Nat := 30

/-- The least number of characters of a token that is not part of an acronym. -/
def leastSize : Nat := 3

/-- Words that occur in every patent. -/
def stopwords : List String :=
  ["and", "any", "are", "based", "between", "but", "can", "each", "for", "from", "has", "have",
    "into", "its", "method", "methods", "more", "not", "one", "or", "other", "such", "system",
    "systems", "that", "the", "their", "then", "these", "this", "thereof", "those", "through",
    "use", "used", "using", "via", "was", "when", "where", "which", "while", "with", "within"]

def separates (c : Char) : Bool :=
  c = '-' || Text.isBlank c

def ofText (text : String) : List String :=
  (Text.pieces separates text).map Text.lower

def ofAcronyms (families : List TermFamily) : List String :=
  families.flatMap fun family => family.acronyms.flatMap ofText

/-- The texts of a family from which tokens are drawn: the canonical term, the synonyms and the
acronyms. -/
def sources (family : TermFamily) : List String :=
  [family.canonical, " ".intercalate family.synonyms, " ".intercalate family.acronyms]

def isSearchable (acronyms : List String) (token : String) : Bool :=
  (leastSize ≤ token.length || acronyms.contains token) && !stopwords.contains token

/-- Adds the searchable ones of a list of tokens to those taken already, the latest at the head,
until there are enough. -/
def take (acronyms taken : List String) : List String → List String
  | [] => taken
  | token :: rest =>
    if most ≤ taken.length then taken
    else if isSearchable acronyms token && !taken.contains token then
      take acronyms (token :: taken) rest
    else take acronyms taken rest

def ofFamilies (families : List TermFamily) : List String :=
  let acronyms := ofAcronyms families
  (families.foldl
    (fun taken family =>
      (sources family).foldl (fun taken source => take acronyms taken (ofText source)) taken)
    []).reverse

end Tokens

end PriorArt
