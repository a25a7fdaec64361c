import PriorArt.Json.Decode

/-!
# Requests

The disclosure of an invention under the identifier of its case, with what an earlier screen of the
same disclosure found.
-/

namespace PriorArt

/-- What an earlier screen objected to. -/
structure ScreenConcerns where
  novelty : List String
  nonObviousness : List String
  searchPriority : String
  deriving DecidableEq, Inhabited

/-- What an earlier screen made of the disclosure. -/
structure ScreenExtraction where
  title : String
  technologyArea : String
  elements : List String
  description : String
  deriving DecidableEq, Inhabited

/-- The findings of an earlier screen. -/
structure PriorContext where
  concerns : Option ScreenConcerns
  extraction : Option ScreenExtraction
  deriving DecidableEq, Inhabited

structure Request where
  caseId : String
  disclosure : String
  priorContext : Option PriorContext
  deriving DecidableEq, Inhabited

/-! ## JSON form -/

open Json

namespace ScreenConcerns

def fields : Fields :=
  [("novelty_concerns", []), ("non_obviousness_concerns", []), ("search_priority", [])]

def toJson (c : ScreenConcerns) : Json :=
  .object [("novelty_concerns", strings c.novelty),
    ("non_obviousness_concerns", strings c.nonObviousness),
    ("search_priority", .string c.searchPriority)]

def ofJson? (j : Json) : Option ScreenConcerns := do
  let r ← record? fields j
  return {
    novelty := ← r.getD? "novelty_concerns" [] strings?
    nonObviousness := ← r.getD? "non_obviousness_concerns" [] strings?
    searchPriority := ← r.getD? "search_priority" "" string? }

end ScreenConcerns

namespace ScreenExtraction

def fields : Fields :=
  [("invention_title", []), ("technology_area", []), ("novel_elements", []),
    ("invention_description", [])]

def toJson (e : ScreenExtraction) : Json :=
  .object [("invention_title", .string e.title), ("technology_area", .string e.technologyArea),
    ("novel_elements", strings e.elements), ("invention_description", .string e.description)]

def ofJson? (j : Json) : Option ScreenExtraction := do
  let r ← record? fields j
  return {
    title := ← r.getD? "invention_title" "" string?
    technologyArea := ← r.getD? "technology_area" "" string?
    elements := ← r.getD? "novel_elements" [] strings?
    description := ← r.getD? "invention_description" "" string? }

end ScreenExtraction

namespace PriorContext

def fields : Fields :=
  [("concerns", []), ("extraction", [])]

def toJson (c : PriorContext) : Json :=
  .object [("concerns", orNull (·.toJson) c.concerns),
    ("extraction", orNull (·.toJson) c.extraction)]

def ofJson? (j : Json) : Option PriorContext := do
  let r ← record? fields j
  return {
    concerns := ← r.getD? "concerns" none (orNull? ScreenConcerns.ofJson?)
    extraction := ← r.getD? "extraction" none (orNull? ScreenExtraction.ofJson?) }

end PriorContext

namespace Request

def fields : Fields :=
  [("case_id", []), ("disclosure_text", []), ("prior_context", [])]

def toJson (r : Request) : Json :=
  .object ([("case_id", .string r.caseId), ("disclosure_text", .string r.disclosure)] ++
    match r.priorContext with
    | some context => [("prior_context", context.toJson)]
    | none => [])

def ofJson? (j : Json) : Option Request := do
  let r ← record? fields j
  return {
    caseId := ← r.get? "case_id" string?
    disclosure := ← r.get? "disclosure_text" string?
    priorContext := ← r.getD? "prior_context" none (orNull? PriorContext.ofJson?) }

end Request

end PriorArt
