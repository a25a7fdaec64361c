import PriorArt.Json.Decode
import PriorArt.Text.Blank

/-!
# Relevance assessments

What a model says about one patent: how relevant it is to the invention, and which novel elements
it covers.
-/

namespace PriorArt

/-- How much a patent bears on the novelty of the invention. -/
inductive Relevance where
  | high
  | medium
  | low
  | none
  deriving DecidableEq, Inhabited

namespace Relevance

/-- The lower rank is the more relevant. -/
def rank : Relevance → Nat
  | .high => 0
  | .medium => 1
  | .low => 2
  | .none => 3

def name : Relevance → String
  | .high => "HIGH"
  | .medium => "MEDIUM"
  | .low => "LOW"
  | .none => "NONE"

def ofText (text : String) : Relevance :=
  match Text.upper (Text.trim text) with
  | "HIGH" => .high
  | "MEDIUM" => .medium
  | "LOW" => .low
  | _ => .none

@[simp] theorem ofText_name (r : Relevance) : ofText r.name = r := by
  cases r <;> decide +kernel

/-- The patent may stand in the way of the invention. -/
def isMaterial (r : Relevance) : Bool :=
  r = .high || r = .medium

theorem isMaterial_iff {r : Relevance} : r.isMaterial = true ↔ r = .high ∨ r = .medium := by
  simp [isMaterial]

end Relevance

/-- The assessment of one patent. -/
structure Assessment where
  patentId : String
  relevance : Relevance
  overlap : String
  covered : List String
  confidence : Binary64
  deriving DecidableEq, Inhabited

namespace Assessment

def mostOverlap : Nat := 500

def fallback (id : String) : Assessment :=
  { patentId := id
    relevance := .none
    overlap := "Assessment not returned"
    covered := []
    confidence := .zero }

/-- Puts the identifier of a known element at the end of a list that does not hold it yet. -/
def cover (known kept : List String) (raw : String) : List String :=
  let id := Text.upper (Text.trim raw)
  if known.contains id && !kept.contains id then kept ++ [id] else kept

/-- The assessment with its texts trimmed and cut, its confidence between zero and one, and of the
covered elements the known ones, each once. -/
def sanitize (known : List String) (assessment : Assessment) : Assessment :=
  { patentId := Text.trim assessment.patentId
    relevance := assessment.relevance
    overlap := Text.clamp mostOverlap assessment.overlap
    covered := assessment.covered.foldl (cover known) []
    confidence := assessment.confidence.clampToUnit }

/-! ## JSON form -/

open Json

def fields : Fields :=
  [("patent_id", []), ("relevance", []), ("overlap_description", []),
    ("novel_elements_covered", []), ("confidence", ["confidence_score"])]

def toJson (a : Assessment) : Json :=
  .object [("patent_id", .string a.patentId), ("relevance", .string a.relevance.name),
    ("overlap_description", .string a.overlap), ("novel_elements_covered", strings a.covered),
    ("confidence", double a.confidence)]

def ofJson? (j : Json) : Option Assessment := do
  let r ← record? fields j
  return {
    patentId := ← r.get? "patent_id" string?
    relevance := ← r.getD? "relevance" .none fun j => j.string?.map Relevance.ofText
    overlap := ← r.getD? "overlap_description" "" string?
    covered := ← r.getD? "novel_elements_covered" [] strings?
    confidence := ← r.getD? "confidence" .zero double? }

end Assessment

end PriorArt
