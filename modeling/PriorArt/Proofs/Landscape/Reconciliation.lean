import PriorArt.Landscape.Reconcile
import PriorArt.Proofs.Text.Blank

/-!
# What a reconciliation makes of a draft

1. `Narrative.level_eq`, `Narrative.cut_eq`, `Narrative.player_eq`, `Narrative.settleRisk_eq` and
   `Narrative.settleDetermination_eq`: what becomes of each part of a draft, and what is recorded.
2. `Narrative.reconcile_eq`: a draft with white space becomes the narrative
   `Narrative.reconciled` with the corrections `Narrative.log`, and any other one is refused.
3. `Narrative.filter_subject_log`: the log holds what is due on each subject, subject after
   subject, so that no correction hides another one.
-/

namespace PriorArt

/-! ## What a draft gives -/

namespace LevelField

def raw (draft : DraftNarrative) : LevelField → String
  | .density => draft.density
  | .blockingLevel => draft.blockingRisk.level
  | .designLevel => draft.designAround.level
  | .determination => draft.determination

/-- The text names a level. -/
def recognises (text : String) : LevelField → Bool
  | .density => (Density.ofText? text).isSome
  | .blockingLevel => (BlockingLevel.ofText? text).isSome
  | .designLevel => (DesignLevel.ofText? text).isSome
  | .determination => (Determination.ofText? text).isSome

/-- The name of the level that is taken where the text names none. -/
def default : LevelField → String
  | .density => Density.dense.name
  | .blockingLevel => BlockingLevel.none.name
  | .designLevel => DesignLevel.difficult.name
  | .determination => Determination.inconclusive.name

end LevelField

namespace ListField

/-- How many items of a draft are for the list. Blank white space does not count. -/
def given (draft : DraftNarrative) : ListField → Nat
  | .whiteSpace => draft.whiteSpace.countP fun entry => !Text.isBlankText entry
  | .keyPlayers => draft.keyPlayers.length

def most : ListField → Nat
  | .whiteSpace => Narrative.mostWhiteSpace
  | .keyPlayers => Narrative.mostKeyPlayers

end ListField

namespace DraftNarrative

variable (draft : DraftNarrative)

-- How a text is read plays no part in what is made of it, so that no proof has to look into it.

@[irreducible] def readDensity : Density := (Density.ofText? draft.density).getD .dense

@[irreducible] def readLevel : BlockingLevel :=
  (BlockingLevel.ofText? draft.blockingRisk.level).getD .none

@[irreducible] def readDesign : DesignLevel :=
  (DesignLevel.ofText? draft.designAround.level).getD .difficult

@[irreducible] def readDetermination : Determination :=
  (Determination.ofText? draft.determination).getD .inconclusive

/-- The blocking patents that are left, whatever becomes of the level. -/
def survivors (assessments : List Assessment) : List String :=
  (draft.blockingRisk.patentIds.map Text.trim).filter (Narrative.isMaterial assessments)

end DraftNarrative

/-- What a correction is about. -/
inductive Correction.Subject where
  | level (field : LevelField)
  | confidenceReason
  | length (field : ListField)
  | patentCount
  | confidence
  | blockingId
  | downgrade
  | clearing
  | determination
  | clearField
  deriving DecidableEq

def Correction.subject : Correction → Subject
  | .levelDefaulted field _ _ => .level field
  | .keyPlayerCount _ _ _ => .patentCount
  | .blockingIdDropped _ => .blockingId
  | .blockingRiskDowngraded => .downgrade
  | .blockingIdsCleared _ => .clearing
  | .determinationForced _ => .determination
  | .confidenceClamped _ _ => .confidence
  | .truncated field _ _ => .length field
  | .inconsistentClearField _ => .clearField
  | .shortConfidenceReason _ => .confidenceReason

namespace Narrative

/-! ## The parts of a draft -/

theorem level_eq {α : Type} {field : LevelField} {parse : String → Option α} {name : α → String}
    {default : α} {raw : String} {known : Bool} (h : (parse raw).isSome = known) :
    level field parse name default raw = ((parse raw).getD default,
      if known = false then [.levelDefaulted field raw (name default)] else []) := by
  subst h
  unfold level
  cases parse raw <;> rfl

theorem cut_eq {α : Type} (field : ListField) (limit : Nat) (items : List α) :
    cut field limit items =
      (items.take limit,
        if limit < items.length then [.truncated field limit (items.length - limit)] else []) := by
  unfold cut
  split
  next => rfl
  next few => rw [List.take_of_length_le (Nat.le_of_not_lt few)]

/-- The computed number of patents takes the place of the given one, unless there is no name to
compute it for, and is recorded if it differs. -/
theorem player_eq (stats : Statistics) (given : KeyPlayer) : player stats given =
    (⟨Text.trim given.name,
      if Text.isBlankText given.name then given.patentCount
      else stats.assigneeCount (Text.trim given.name),
      Text.clamp mostNote given.note⟩,
    if Text.isBlankText given.name = false ∧
        given.patentCount ≠ stats.assigneeCount (Text.trim given.name) then
      [.keyPlayerCount (Text.trim given.name) given.patentCount
        (stats.assigneeCount (Text.trim given.name))]
    else []) := by
  have isEmpty : (Text.trim given.name).isEmpty = Text.isBlankText given.name := by
    rw [Bool.eq_iff_iff, String.isEmpty_iff, Text.isBlankText_iff]
  unfold player
  dsimp only
  rw [isEmpty]
  by_cases same : given.patentCount = stats.assigneeCount (Text.trim given.name)
  · simp [same]
  · cases Text.isBlankText given.name <;> simp [same]

/-- A high risk without patents is lowered, and one of no level is left without patents. -/
theorem settleRisk_eq (level : BlockingLevel) (ids : List String) : settleRisk level ids =
    ((if level = .high ∧ ids = [] then .medium else level, if level = .none then [] else ids),
      (if level = .high ∧ ids = [] then [.blockingRiskDowngraded] else []) ++
        if level = .none ∧ ids ≠ [] then [.blockingIdsCleared ids.length] else []) := by
  cases level <;> cases ids <;> rfl

theorem settleDetermination_eq (level : BlockingLevel) (determination : Determination) :
    settleDetermination level determination =
      (if level = .high then .blockingArtFound else determination,
        if level = .high ∧ determination ≠ .blockingArtFound then
          [.determinationForced determination]
        else []) := by
  cases level <;> cases determination <;> rfl

theorem remark_eq (density : Density) (level : BlockingLevel) (determination : Determination) :
    remark density level determination =
      if level = .none ∧ density = .sparse ∧ determination ≠ .clearField then
        [.inconsistentClearField determination]
      else [] := by
  simp [remark, and_assoc]

/-- Only white space that is blank throughout comes to nothing. -/
theorem whiteSpaceOf_eq_nil_iff {entries : List String} :
    whiteSpaceOf entries = [] ↔ ∀ entry ∈ entries, Text.isBlankText entry = true := by
  have positive : 0 < mostWhiteSpaceEntry := by decide
  rw [whiteSpaceOf, List.filter_eq_nil_iff, List.forall_mem_map]
  refine forall₂_congr fun entry _ => ?_
  rw [← Text.clamp_eq_empty_iff positive]
  simp

theorem length_whiteSpaceOf (entries : List String) :
    (whiteSpaceOf entries).length = entries.countP fun entry => !Text.isBlankText entry := by
  have positive : 0 < mostWhiteSpaceEntry := by decide
  rw [whiteSpaceOf, ← List.countP_eq_length_filter, List.countP_map]
  refine List.countP_congr fun entry _ => ?_
  have same : Text.clamp mostWhiteSpaceEntry entry = "" ↔ Text.isBlankText entry = true :=
    Text.clamp_eq_empty_iff positive
  simp [same]

/-! ## The narrative and its log -/

section Reconcile

variable (draft : DraftNarrative) (stats : Statistics) (assessments : List Assessment)

/-- The blocking risk once it agrees with the patents that are left. -/
def settledRisk : BlockingRisk where
  level := if draft.readLevel = .high ∧ draft.survivors assessments = [] then .medium
    else draft.readLevel
  patentIds := if draft.readLevel = .none then [] else draft.survivors assessments
  reasoning := Text.clamp mostBlockingReasoning draft.blockingRisk.reasoning

def reconciled : Narrative where
  density := draft.readDensity
  densityReasoning := Text.clamp mostDensityReasoning draft.densityReasoning
  keyPlayers := (draft.keyPlayers.take mostKeyPlayers).map fun given => (player stats given).1
  blockingRisk := settledRisk draft assessments
  designAround := ⟨draft.readDesign, Text.clamp mostDesignReasoning draft.designAround.reasoning⟩
  whiteSpace := (whiteSpaceOf draft.whiteSpace).take mostWhiteSpace
  determination := if (settledRisk draft assessments).level = .high then .blockingArtFound
    else draft.readDetermination
  determinationReasoning := Text.clamp mostDeterminationReasoning draft.determinationReasoning
  confidence := draft.confidence.clampToUnit
  confidenceReason := Text.clamp mostConfidenceReason draft.confidenceReason

/-- The corrections on a subject. -/
def due : Correction.Subject → List Correction
  | .level field =>
    if field.recognises (field.raw draft) = false then
      [.levelDefaulted field (field.raw draft) field.default]
    else []
  | .confidenceReason =>
    if Text.size (Text.clamp mostConfidenceReason draft.confidenceReason) <
        leastConfidenceReason then
      [.shortConfidenceReason (Text.size (Text.clamp mostConfidenceReason draft.confidenceReason))]
    else []
  | .length field =>
    if field.most < field.given draft then
      [.truncated field field.most (field.given draft - field.most)]
    else []
  | .patentCount =>
    (draft.keyPlayers.take mostKeyPlayers).flatMap fun given => (player stats given).2
  | .confidence =>
    if draft.confidence.clampToUnit.same draft.confidence then []
    else [.confidenceClamped draft.confidence draft.confidence.clampToUnit]
  | .blockingId =>
    ((draft.blockingRisk.patentIds.map Text.trim).filter fun id => !isMaterial assessments id).map
      .blockingIdDropped
  | .downgrade =>
    if draft.readLevel = .high ∧ draft.survivors assessments = [] then [.blockingRiskDowngraded]
    else []
  | .clearing =>
    if draft.readLevel = .none ∧ draft.survivors assessments ≠ [] then
      [.blockingIdsCleared (draft.survivors assessments).length]
    else []
  | .determination =>
    if (settledRisk draft assessments).level = .high ∧
        draft.readDetermination ≠ .blockingArtFound then
      [.determinationForced draft.readDetermination]
    else []
  | .clearField =>
    if (settledRisk draft assessments).level = .none ∧ draft.readDensity = .sparse ∧
        (reconciled draft stats assessments).determination ≠ .clearField then
      [.inconsistentClearField (reconciled draft stats assessments).determination]
    else []

/-- The subjects in the order in which the corrections are made. -/
def subjects : List Correction.Subject :=
  [.level .density, .level .blockingLevel, .level .designLevel, .level .determination,
    .confidenceReason, .length .whiteSpace, .length .keyPlayers, .patentCount, .confidence,
    .blockingId, .downgrade, .clearing, .determination, .clearField]

/-- The corrections on all subjects. -/
def log : List Correction :=
  subjects.flatMap (due draft stats assessments)

theorem level_density : level .density Density.ofText? Density.name .dense draft.density =
    (draft.readDensity, due draft stats assessments (.level .density)) := by
  rw [due, DraftNarrative.readDensity]
  exact level_eq rfl

theorem level_blockingLevel :
    level .blockingLevel BlockingLevel.ofText? BlockingLevel.name .none draft.blockingRisk.level =
      (draft.readLevel, due draft stats assessments (.level .blockingLevel)) := by
  rw [due, DraftNarrative.readLevel]
  exact level_eq rfl

theorem level_designLevel :
    level .designLevel DesignLevel.ofText? DesignLevel.name .difficult draft.designAround.level =
      (draft.readDesign, due draft stats assessments (.level .designLevel)) := by
  rw [due, DraftNarrative.readDesign]
  exact level_eq rfl

theorem level_determination :
    level .determination Determination.ofText? Determination.name .inconclusive
        draft.determination =
      (draft.readDetermination, due draft stats assessments (.level .determination)) := by
  rw [due, DraftNarrative.readDetermination]
  exact level_eq rfl

/-- A draft with white space becomes the narrative above with its log, and any other one is
refused. -/
theorem reconcile_eq : reconcile draft stats assessments =
    if whiteSpaceOf draft.whiteSpace = [] then .error (.count .whiteSpace 1 mostWhiteSpace 0)
    else .ok (reconciled draft stats assessments, log draft stats assessments) := by
  unfold reconcile
  rw [level_density draft stats assessments, level_blockingLevel draft stats assessments,
    level_designLevel draft stats assessments, level_determination draft stats assessments]
  by_cases none : whiteSpaceOf draft.whiteSpace = []
  · rw [if_pos none, none]
  · rw [if_neg none]
    dsimp only
    split
    next nil => exact absurd nil none
    next =>
      -- part by part the two sides are the same once each part is written as a test
      simp only [cut_eq, settleRisk_eq, settleDetermination_eq, remark_eq, length_whiteSpaceOf,
        List.map_map, List.flatMap_map, log, subjects, List.flatMap_cons, List.flatMap_nil,
        List.append_nil, List.append_assoc]
      rfl

end Reconcile

section Reconcile

variable {draft : DraftNarrative} {stats : Statistics} {assessments : List Assessment}

/-- A draft is refused only if all its white space is blank. -/
theorem reconcile_eq_error_iff :
    (∃ violation, reconcile draft stats assessments = .error violation) ↔
      ∀ entry ∈ draft.whiteSpace, Text.isBlankText entry = true := by
  rw [← whiteSpaceOf_eq_nil_iff, reconcile_eq]
  split
  next none => exact iff_of_true ⟨_, rfl⟩ none
  next some => exact iff_of_false (fun ⟨_, refused⟩ => nomatch refused) some

theorem reconcile_eq_ok {narrative : Narrative} {corrections : List Correction}
    (ok : reconcile draft stats assessments = .ok (narrative, corrections)) :
    whiteSpaceOf draft.whiteSpace ≠ [] ∧ reconciled draft stats assessments = narrative ∧
      log draft stats assessments = corrections := by
  rw [reconcile_eq] at ok
  split at ok
  next => cases ok
  next some =>
    obtain ⟨rfl, rfl⟩ := Prod.mk.inj (Except.ok.inj ok)
    exact ⟨some, rfl, rfl⟩

/-! ## The corrections on one subject -/

/-- On a subject there is one correction at most. Only patents are dropped, and numbers changed,
several at a time. -/
theorem due_eq_nil_or_singleton {subject : Correction.Subject} (notIds : subject ≠ .blockingId)
    (notCounts : subject ≠ .patentCount) :
    due draft stats assessments subject = [] ∨
      ∃ made, made.subject = subject ∧ due draft stats assessments subject = [made] := by
  cases subject with
  | blockingId => exact absurd rfl notIds
  | patentCount => exact absurd rfl notCounts
  | confidence =>
    rw [due]
    split
    next => exact .inl rfl
    next => exact .inr ⟨_, rfl, rfl⟩
  | _ =>
    rw [due]
    split
    next => exact .inr ⟨_, rfl, rfl⟩
    next => exact .inl rfl

theorem subject_of_mem_due {subject : Correction.Subject} {correction : Correction}
    (member : correction ∈ due draft stats assessments subject) :
    correction.subject = subject := by
  by_cases isIds : subject = .blockingId
  · subst isIds
    obtain ⟨id, -, rfl⟩ := List.mem_map.1 member
    rfl
  by_cases isCounts : subject = .patentCount
  · subst isCounts
    obtain ⟨given, -, made⟩ := List.mem_flatMap.1 member
    rw [player_eq, List.mem_ite_nil_right, List.mem_singleton] at made
    rw [made.2, Correction.subject]
  obtain none | ⟨made, onSubject, one⟩ := due_eq_nil_or_singleton isIds isCounts
  · rw [none] at member
    cases member
  · rw [one] at member
    rw [List.mem_singleton.1 member, onSubject]

/-- Each subject has its one place in the log. -/
theorem filter_subjects (subject : Correction.Subject) :
    subjects.filter (· = subject) = [subject] := by
  cases subject with
  | level field => cases field <;> rfl
  | length field => cases field <;> rfl
  | _ => rfl

/-- Of what is made for several indices, that of one index is left. -/
theorem filter_flatMap_of_key {α κ : Type} [DecidableEq κ] {key : α → κ} {f : κ → List α}
    (own : ∀ index, ∀ a ∈ f index, key a = index) (indices : List κ) (index : κ) :
    (indices.flatMap f).filter (key · = index) = (indices.filter (· = index)).flatMap f := by
  induction indices with
  | nil => rfl
  | cons first others ih =>
    rw [List.flatMap_cons, List.filter_append, ih, List.filter_cons]
    by_cases same : first = index
    · have all : (f first).filter (key · = index) = f first :=
        List.filter_eq_self.2 fun a member => decide_eq_true ((own first a member).trans same)
      rw [if_pos (decide_eq_true same), List.flatMap_cons, all]
    · have none : (f first).filter (key · = index) = [] :=
        List.filter_eq_nil_iff.2 fun a member => by simpa [own first a member] using same
      rw [if_neg (by simpa using same), none, List.nil_append]

/-- **The corrections on a subject.** They are found in the log as they are due. -/
theorem filter_subject_log (subject : Correction.Subject) :
    (log draft stats assessments).filter (·.subject = subject) =
      due draft stats assessments subject := by
  rw [log, filter_flatMap_of_key fun _ _ => subject_of_mem_due, filter_subjects,
    List.flatMap_singleton]

theorem mem_log_iff {correction : Correction} :
    correction ∈ log draft stats assessments ↔
      correction ∈ due draft stats assessments correction.subject := by
  rw [← filter_subject_log, List.mem_filter]
  simp

end Reconcile

end Narrative

end PriorArt
