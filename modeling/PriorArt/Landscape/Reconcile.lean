import PriorArt.Landscape.Narrative
import PriorArt.Landscape.Statistics
import PriorArt.Violation

/-!
# Reconciliation of a narrative

A draft narrative is made consistent with the statistics and the assessments: whatever it shares
with them is overwritten or filtered, levels that are not recognised take a default, and each change
is recorded as a correction. Only a draft without any white space is refused.
-/

namespace PriorArt

/-- The levels of a narrative that a draft gives as text. -/
inductive LevelField where
  | density
  | blockingLevel
  | designLevel
  | determination
  deriving DecidableEq

def LevelField.path : LevelField → String
  | .density => "density"
  | .blockingLevel => "blocking_risk.level"
  | .designLevel => "design_around.level"
  | .determination => "determination"

/-- The lists of a narrative that are bounded in length. -/
inductive ListField where
  | whiteSpace
  | keyPlayers
  deriving DecidableEq

def ListField.path : ListField → String
  | .whiteSpace => "white_space"
  | .keyPlayers => "key_players"

/-- One change to a draft narrative, or one remark on it. -/
inductive Correction where
  | levelDefaulted (field : LevelField) (raw applied : String)
  | keyPlayerCount (name : String) (reported computed : Nat)
  | blockingIdDropped (patentId : String)
  | blockingRiskDowngraded
  | blockingIdsCleared (count : Nat)
  | determinationForced (was : Determination)
  | confidenceClamped (reported applied : Binary64)
  | truncated (field : ListField) (kept dropped : Nat)
  | inconsistentClearField (determination : Determination)
  | shortConfidenceReason (size : Nat)
  deriving DecidableEq

namespace Narrative

def mostKeyPlayers : Nat := 5
def mostWhiteSpace : Nat := 5
def mostDensityReasoning : Nat := 500
def mostBlockingReasoning : Nat := 1000
def mostDesignReasoning : Nat := 500
def mostDeterminationReasoning : Nat := 1000
def mostWhiteSpaceEntry : Nat := 200
def mostNote : Nat := 200
def mostConfidenceReason : Nat := 500
def leastConfidenceReason : Nat := 10

def level {α : Type} (field : LevelField) (parse : String → Option α) (name : α → String)
    (default : α) (raw : String) : α × List Correction :=
  match parse raw with
  | some level => (level, [])
  | none => (default, [.levelDefaulted field raw (name default)])

def cut {α : Type} (field : ListField) (limit : Nat) (items : List α) : List α × List Correction :=
  if limit < items.length then
    (items.take limit, [.truncated field limit (items.length - limit)])
  else (items, [])

/-- A key player with the computed number of patents, unless the name is blank. -/
def player (stats : Statistics) (draft : KeyPlayer) : KeyPlayer × List Correction :=
  let name := Text.trim draft.name
  let note := Text.clamp mostNote draft.note
  let computed := stats.assigneeCount name
  if name.isEmpty || draft.patentCount = computed then ({ draft with name, note }, [])
  else
    (⟨name, computed, note⟩, [.keyPlayerCount name draft.patentCount computed])

def whiteSpaceOf (entries : List String) : List String :=
  (entries.map (Text.clamp mostWhiteSpaceEntry)).filter fun entry => !entry.isEmpty

/-- The patent is the subject of a material assessment. -/
def isMaterial (assessments : List Assessment) (id : String) : Bool :=
  assessments.any fun a => a.relevance.isMaterial && a.patentId = id

/-- The trimmed identifiers that are material, with a correction for each other one. -/
def blockingIds (assessments : List Assessment) (raw : List String) :
    List String × List Correction :=
  let ids := raw.map Text.trim
  (ids.filter (isMaterial assessments),
    (ids.filter fun id => !isMaterial assessments id).map .blockingIdDropped)

/-- The blocking risk with a level that agrees with the patents that are left: a high risk needs
one, and no risk has none. -/
def settleRisk (level : BlockingLevel) (ids : List String) :
    (BlockingLevel × List String) × List Correction :=
  if level = .high && ids.isEmpty then ((.medium, []), [.blockingRiskDowngraded])
  else if level = .none && !ids.isEmpty then ((.none, []), [.blockingIdsCleared ids.length])
  else ((level, ids), [])

/-- The determination, which a high risk forces. -/
def settleDetermination (level : BlockingLevel) (determination : Determination) :
    Determination × List Correction :=
  if level = .high && determination ≠ .blockingArtFound then
    (.blockingArtFound, [.determinationForced determination])
  else (determination, [])

/-- A remark on a sparse landscape without risk that is not called a clear field. -/
def remark (density : Density) (level : BlockingLevel) (determination : Determination) :
    List Correction :=
  if level = .none && density = .sparse && determination ≠ .clearField then
    [.inconsistentClearField determination]
  else []

/-- The narrative that a draft becomes, with the corrections in the order they were made. -/
def reconcile (draft : DraftNarrative) (stats : Statistics) (assessments : List Assessment) :
    Except Violation (Narrative × List Correction) :=
  let (density, ofDensity) := level .density Density.ofText? Density.name .dense draft.density
  let (named, ofLevel) :=
    level .blockingLevel BlockingLevel.ofText? BlockingLevel.name .none draft.blockingRisk.level
  let (design, ofDesign) :=
    level .designLevel DesignLevel.ofText? DesignLevel.name .difficult draft.designAround.level
  let (meant, ofMeant) :=
    level .determination Determination.ofText? Determination.name .inconclusive
      draft.determination
  match whiteSpaceOf draft.whiteSpace with
  | [] => .error (.count .whiteSpace 1 mostWhiteSpace 0)
  | entries =>
    let confidenceReason := Text.clamp mostConfidenceReason draft.confidenceReason
    let ofReason : List Correction :=
      if Text.size confidenceReason < leastConfidenceReason then
        [.shortConfidenceReason (Text.size confidenceReason)]
      else []
    let (whiteSpace, ofWhiteSpace) := cut .whiteSpace mostWhiteSpace entries
    let (drafts, ofDrafts) := cut .keyPlayers mostKeyPlayers draft.keyPlayers
    let players := drafts.map (player stats)
    let confidence := draft.confidence.clampToUnit
    let ofConfidence : List Correction :=
      if confidence.same draft.confidence then []
      else [.confidenceClamped draft.confidence confidence]
    let (ids, ofIds) := blockingIds assessments draft.blockingRisk.patentIds
    let ((riskLevel, patentIds), ofRisk) := settleRisk named ids
    let (determination, ofDetermination) := settleDetermination riskLevel meant
    .ok
      ({ density
         densityReasoning := Text.clamp mostDensityReasoning draft.densityReasoning
         keyPlayers := players.map (·.1)
         blockingRisk :=
           ⟨riskLevel, patentIds, Text.clamp mostBlockingReasoning draft.blockingRisk.reasoning⟩
         designAround :=
           ⟨design, Text.clamp mostDesignReasoning draft.designAround.reasoning⟩
         whiteSpace
         determination
         determinationReasoning :=
           Text.clamp mostDeterminationReasoning draft.determinationReasoning
         confidence
         confidenceReason },
        ofDensity ++ ofLevel ++ ofDesign ++ ofMeant ++ ofReason ++ ofWhiteSpace ++ ofDrafts ++
          players.flatMap (·.2) ++ ofConfidence ++ ofIds ++ ofRisk ++ ofDetermination ++
          remark density riskLevel determination)

end Narrative

/-- The number of patents of medium relevance that make a field crowded. -/
def Determination.crowdedFrom : Nat := 5

/-- The determination where there is no narrative, from the assessments alone. -/
def Determination.fallback (assessments : List Assessment) (retrieved : Nat) : Determination :=
  if 0 < assessments.countP (·.relevance = .high) then .blockingArtFound
  else if crowdedFrom ≤ assessments.countP (·.relevance = .medium) then .crowdedField
  else if retrieved = 0 then .inconclusive
  else .clearField

/-! ## JSON form -/

open Json

def Correction.toJson : Correction → Json
  | .levelDefaulted field raw applied =>
    .object [("kind", .string "enum_defaulted"), ("field", .string field.path),
      ("raw", .string raw), ("applied", .string applied)]
  | .keyPlayerCount name reported computed =>
    .object [("kind", .string "key_player_count"), ("name", .string name),
      ("reported", nat reported), ("computed", nat computed)]
  | .blockingIdDropped id =>
    .object [("kind", .string "blocking_id_dropped"), ("patent_id", .string id)]
  | .blockingRiskDowngraded =>
    .object [("kind", .string "blocking_risk_downgraded"),
      ("from", .string BlockingLevel.high.name), ("to", .string BlockingLevel.medium.name)]
  | .blockingIdsCleared count =>
    .object [("kind", .string "blocking_ids_cleared"), ("count", nat count)]
  | .determinationForced was =>
    .object [("kind", .string "determination_forced"), ("from", .string was.name),
      ("to", .string Determination.blockingArtFound.name)]
  | .confidenceClamped reported applied =>
    .object [("kind", .string "confidence_clamped"), ("reported", double reported),
      ("applied", double applied)]
  | .truncated field kept dropped =>
    .object [("kind", .string "truncated"), ("field", .string field.path), ("kept", nat kept),
      ("dropped", nat dropped)]
  | .inconsistentClearField determination =>
    .object [("kind", .string "inconsistent_clear_field"),
      ("determination", .string determination.name)]
  | .shortConfidenceReason size =>
    .object [("kind", .string "short_confidence_reason"), ("chars", nat size)]

end PriorArt
