import PriorArt.Json.Decode
import PriorArt.Number.Decimal
import PriorArt.Text.Blank

/-!
# Landscape narratives

The account of a landscape that a model writes, in two forms: the draft, in which the levels are
still free text, and the narrative that is reported.
-/

namespace PriorArt

/-- How crowded the field is. -/
inductive Density where
  | dense
  | moderate
  | sparse
  deriving DecidableEq, Inhabited

/-- How likely a patent blocks the invention. -/
inductive BlockingLevel where
  | high
  | medium
  | low
  | none
  deriving DecidableEq, Inhabited

/-- How easily existing patents can be designed around. -/
inductive DesignLevel where
  | easy
  | moderate
  | difficult
  deriving DecidableEq, Inhabited

/-- The verdict on the landscape. -/
inductive Determination where
  | clearField
  | crowdedField
  | blockingArtFound
  | inconclusive
  deriving DecidableEq, Inhabited

namespace Density

def name : Density → String
  | .dense => "DENSE"
  | .moderate => "MODERATE"
  | .sparse => "SPARSE"

/-- The density that a text names in any case. -/
def ofText? (text : String) : Option Density :=
  match Text.upper (Text.trim text) with
  | "DENSE" => some .dense
  | "CROWDED" => some .dense
  | "MODERATE" => some .moderate
  | "SPARSE" => some .sparse
  | _ => none

@[simp] theorem ofText?_name (d : Density) : ofText? d.name = some d := by
  cases d <;> decide +kernel

end Density

namespace BlockingLevel

def name : BlockingLevel → String
  | .high => "HIGH"
  | .medium => "MEDIUM"
  | .low => "LOW"
  | .none => "NONE"

def ofText? (text : String) : Option BlockingLevel :=
  match Text.upper (Text.trim text) with
  | "HIGH" => some .high
  | "MEDIUM" => some .medium
  | "LOW" => some .low
  | "NONE" => some .none
  | _ => Option.none

@[simp] theorem ofText?_name (l : BlockingLevel) : ofText? l.name = some l := by
  cases l <;> decide +kernel

end BlockingLevel

namespace DesignLevel

def name : DesignLevel → String
  | .easy => "EASY"
  | .moderate => "MODERATE"
  | .difficult => "DIFFICULT"

def ofText? (text : String) : Option DesignLevel :=
  match Text.upper (Text.trim text) with
  | "EASY" => some .easy
  | "MODERATE" => some .moderate
  | "DIFFICULT" => some .difficult
  | _ => none

@[simp] theorem ofText?_name (l : DesignLevel) : ofText? l.name = some l := by
  cases l <;> decide +kernel

end DesignLevel

namespace Determination

def name : Determination → String
  | .clearField => "CLEAR_FIELD"
  | .crowdedField => "CROWDED_FIELD"
  | .blockingArtFound => "BLOCKING_ART_FOUND"
  | .inconclusive => "INCONCLUSIVE"

def ofText? (text : String) : Option Determination :=
  match Text.upper (Text.trim text) with
  | "CLEAR_FIELD" => some .clearField
  | "CROWDED_FIELD" => some .crowdedField
  | "BLOCKING_ART_FOUND" => some .blockingArtFound
  | "BLOCKING_ART" => some .blockingArtFound
  | "INCONCLUSIVE" => some .inconclusive
  | _ => none

@[simp] theorem ofText?_name (d : Determination) : ofText? d.name = some d := by
  cases d <;> decide +kernel

end Determination

/-- An assignee of note. -/
structure KeyPlayer where
  name : String
  patentCount : Nat
  note : String
  deriving DecidableEq, Inhabited

structure BlockingRisk where
  level : BlockingLevel
  patentIds : List String
  reasoning : String
  deriving DecidableEq, Inhabited

structure DesignAround where
  level : DesignLevel
  reasoning : String
  deriving DecidableEq, Inhabited

/-- The account of a landscape as it is reported. -/
structure Narrative where
  density : Density
  densityReasoning : String
  keyPlayers : List KeyPlayer
  blockingRisk : BlockingRisk
  designAround : DesignAround
  whiteSpace : List String
  determination : Determination
  determinationReasoning : String
  confidence : Binary64
  confidenceReason : String
  deriving DecidableEq, Inhabited

structure DraftBlockingRisk where
  level : String
  patentIds : List String
  reasoning : String
  deriving DecidableEq, Inhabited

structure DraftDesignAround where
  level : String
  reasoning : String
  deriving DecidableEq, Inhabited

/-- The account of a landscape as a model returned it. -/
structure DraftNarrative where
  density : String
  densityReasoning : String
  keyPlayers : List KeyPlayer
  blockingRisk : DraftBlockingRisk
  designAround : DraftDesignAround
  whiteSpace : List String
  determination : String
  determinationReasoning : String
  confidence : Binary64
  confidenceReason : String
  deriving DecidableEq, Inhabited

/-! ## JSON form -/

open Json

namespace KeyPlayer

def fields : Fields :=
  [("name", []), ("patent_count", []), ("relevance_note", [])]

/-- The greatest count that is recorded. -/
def mostPatents : Nat := Nat.pow 2 32 - 1

/-- A count as models write it: a number, cut down to a whole one, or the text of one. Anything
else counts as zero, and what is too large as the greatest count. -/
def lenientCount : Json → Nat
  | .int i => min i.toNat mostPatents
  | .float x => x.floorUpTo mostPatents
  | .string s => min ((Decimal.word? (Text.trimList s.toList)).getD 0) mostPatents
  | _ => 0

def toJson (p : KeyPlayer) : Json :=
  .object [("name", .string p.name), ("patent_count", nat p.patentCount),
    ("relevance_note", .string p.note)]

def ofJson? (j : Json) : Option KeyPlayer := do
  let r ← record? fields j
  return {
    name := ← r.get? "name" string?
    patentCount := ← r.getD? "patent_count" 0 fun j => j.tree?.map lenientCount
    note := ← r.getD? "relevance_note" "" string? }

end KeyPlayer

namespace DraftBlockingRisk

def fields : Fields :=
  [("level", []), ("blocking_patent_ids", ["blocking_patents"]), ("reasoning", [])]

/-- What stands for a part of the narrative that the model left out. -/
def absent : DraftBlockingRisk := ⟨"", [], ""⟩

def ofJson? (j : Json) : Option DraftBlockingRisk := do
  let r ← record? fields j
  return {
    level := ← r.getD? "level" "" string?
    patentIds := ← r.getD? "blocking_patent_ids" [] strings?
    reasoning := ← r.getD? "reasoning" "" string? }

end DraftBlockingRisk

namespace DraftDesignAround

def fields : Fields :=
  [("level", []), ("reasoning", [])]

/-- What stands for a part of the narrative that the model left out. -/
def absent : DraftDesignAround := ⟨"", ""⟩

def ofJson? (j : Json) : Option DraftDesignAround := do
  let r ← record? fields j
  return {
    level := ← r.getD? "level" "" string?
    reasoning := ← r.getD? "reasoning" "" string? }

end DraftDesignAround

namespace DraftNarrative

def fields : Fields :=
  [("density", ["landscape_density"]), ("density_reasoning", ["landscape_density_reasoning"]),
    ("key_players", []), ("blocking_risk", []), ("design_around", ["design_around_potential"]),
    ("white_space", []), ("determination", []), ("determination_reasoning", []),
    ("confidence", ["confidence_score"]), ("confidence_reason", [])]

def ofJson? (j : Json) : Option DraftNarrative := do
  let r ← record? fields j
  return {
    density := ← r.getD? "density" "" string?
    densityReasoning := ← r.getD? "density_reasoning" "" string?
    keyPlayers := ← r.getD? "key_players" [] (list? KeyPlayer.ofJson?)
    blockingRisk := ← r.getD? "blocking_risk" .absent DraftBlockingRisk.ofJson?
    designAround := ← r.getD? "design_around" .absent DraftDesignAround.ofJson?
    whiteSpace := ← r.getD? "white_space" [] strings?
    determination := ← r.getD? "determination" "" string?
    determinationReasoning := ← r.getD? "determination_reasoning" "" string?
    confidence := ← r.getD? "confidence" .zero double?
    confidenceReason := ← r.getD? "confidence_reason" "" string? }

end DraftNarrative

def BlockingRisk.toJson (r : BlockingRisk) : Json :=
  .object [("level", .string r.level.name), ("blocking_patent_ids", strings r.patentIds),
    ("reasoning", .string r.reasoning)]

def DesignAround.toJson (d : DesignAround) : Json :=
  .object [("level", .string d.level.name), ("reasoning", .string d.reasoning)]

def Narrative.toJson (n : Narrative) : Json :=
  .object [("density", .string n.density.name), ("density_reasoning", .string n.densityReasoning),
    ("key_players", .array (n.keyPlayers.map (·.toJson))),
    ("blocking_risk", n.blockingRisk.toJson), ("design_around", n.designAround.toJson),
    ("white_space", strings n.whiteSpace), ("determination", .string n.determination.name),
    ("determination_reasoning", .string n.determinationReasoning),
    ("confidence", double n.confidence), ("confidence_reason", .string n.confidenceReason)]

end PriorArt
