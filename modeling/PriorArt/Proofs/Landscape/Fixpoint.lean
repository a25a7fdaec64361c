import PriorArt.Proofs.Documents.Fields
import PriorArt.Proofs.Landscape.Corrections

/-!
# A narrative is left as it is when it is reconciled again

A narrative that was accepted is a draft as well, with its levels spelled out. Given back with the
same statistics and assessments,

1. it is accepted, and becomes itself but for blank space at the ends of its texts, where cutting
   them may have left some (`Narrative.reconciled_toDraft`);
2. no change is recorded, and just the remarks are made that were made before
   (`Narrative.log_toDraft`).

The draft is the one that the JSON form of the narrative is read as
(`DraftNarrative.reads_toJson`). `Narrative.isUpheld_of_reconcile` puts this together.
-/

namespace PriorArt

/-- The correction changes nothing. -/
def Correction.isRemark : Correction → Bool
  | .inconsistentClearField _ => true
  | .shortConfidenceReason _ => true
  | _ => false

theorem Correction.subject_of_isRemark {correction : Correction}
    (remark : correction.isRemark = true) :
    correction.subject = .confidenceReason ∨ correction.subject = .clearField := by
  cases correction with
  | inconsistentClearField _ => exact .inr rfl
  | shortConfidenceReason _ => exact .inl rfl
  | _ => cases remark

/-! ## A narrative as a draft -/

/-- The narrative as a draft, with the levels as they are spelled in its JSON form. -/
def Narrative.toDraft (narrative : Narrative) : DraftNarrative where
  density := narrative.density.name
  densityReasoning := narrative.densityReasoning
  keyPlayers := narrative.keyPlayers
  blockingRisk := ⟨narrative.blockingRisk.level.name, narrative.blockingRisk.patentIds,
    narrative.blockingRisk.reasoning⟩
  designAround := ⟨narrative.designAround.level.name, narrative.designAround.reasoning⟩
  whiteSpace := narrative.whiteSpace
  determination := narrative.determination.name
  determinationReasoning := narrative.determinationReasoning
  confidence := narrative.confidence
  confidenceReason := narrative.confidenceReason

section Json

open Json

theorem KeyPlayer.reads_toJson {player : KeyPlayer} (few : player.patentCount ≤ mostPatents) :
    Reads ofJson? player.toJson player := by
  intro form isForm
  obtain ⟨r, record, given⟩ := exists_record isForm (by decide : fields.IsProper) (.refl _)
  have name := given.get? "name" rfl (.string player.name)
  have count : Reads (fun j => j.tree?.map lenientCount) (nat player.patentCount)
      player.patentCount := by
    refine .of_isTree (.int player.patentCount) ?_
    simp [nat, tree?, lenientCount, few]
  have patentCount := given.getD? "patent_count" rfl count 0
  have note := given.getD? "relevance_note" rfl (.string player.note) ""
  simp [ofJson?, record, name, patentCount, note]

theorem DraftBlockingRisk.reads_toJson (risk : BlockingRisk) :
    Reads ofJson? risk.toJson ⟨risk.level.name, risk.patentIds, risk.reasoning⟩ := by
  intro form isForm
  obtain ⟨r, record, given⟩ := exists_record isForm (by decide : fields.IsProper) (.refl _)
  have level := given.getD? "level" rfl (.string risk.level.name) ""
  have patentIds := given.getD? "blocking_patent_ids" rfl (.strings risk.patentIds) []
  have reasoning := given.getD? "reasoning" rfl (.string risk.reasoning) ""
  simp [ofJson?, record, level, patentIds, reasoning]

theorem DraftDesignAround.reads_toJson (design : DesignAround) :
    Reads ofJson? design.toJson ⟨design.level.name, design.reasoning⟩ := by
  intro form isForm
  obtain ⟨r, record, given⟩ := exists_record isForm (by decide : fields.IsProper) (.refl _)
  have level := given.getD? "level" rfl (.string design.level.name) ""
  have reasoning := given.getD? "reasoning" rfl (.string design.reasoning) ""
  simp [ofJson?, record, level, reasoning]

/-- The draft is what the JSON form of the narrative is read as, unless a number of patents is too
large to be read. -/
theorem DraftNarrative.reads_toJson {narrative : Narrative}
    (few : ∀ player ∈ narrative.keyPlayers, player.patentCount ≤ KeyPlayer.mostPatents)
    (finite : narrative.confidence.isFinite = true) :
    Reads ofJson? narrative.toJson narrative.toDraft := by
  intro form isForm
  obtain ⟨r, record, given⟩ := exists_record isForm (by decide : fields.IsProper) (.refl _)
  have density := given.getD? "density" rfl (.string narrative.density.name) ""
  have densityReasoning :=
    given.getD? "density_reasoning" rfl (.string narrative.densityReasoning) ""
  have players : Reads (list? KeyPlayer.ofJson?) (.array (narrative.keyPlayers.map (·.toJson)))
      narrative.keyPlayers := .list fun player member => KeyPlayer.reads_toJson (few player member)
  have keyPlayers := given.getD? "key_players" rfl players []
  have blockingRisk := given.getD? "blocking_risk" rfl
    (DraftBlockingRisk.reads_toJson narrative.blockingRisk) .absent
  have designAround := given.getD? "design_around" rfl
    (DraftDesignAround.reads_toJson narrative.designAround) .absent
  have whiteSpace := given.getD? "white_space" rfl (.strings narrative.whiteSpace) []
  have determination := given.getD? "determination" rfl (.string narrative.determination.name) ""
  have determinationReasoning :=
    given.getD? "determination_reasoning" rfl (.string narrative.determinationReasoning) ""
  have confidence := given.getD? "confidence" rfl (.double finite) .zero
  have confidenceReason :=
    given.getD? "confidence_reason" rfl (.string narrative.confidenceReason) ""
  simp [ofJson?, record, density, densityReasoning, keyPlayers, blockingRisk, designAround,
    whiteSpace, determination, determinationReasoning, confidence, confidenceReason,
    Narrative.toDraft]

theorem DraftNarrative.ofJson?_toJson {narrative : Narrative}
    (few : ∀ player ∈ narrative.keyPlayers, player.patentCount ≤ KeyPlayer.mostPatents)
    (finite : narrative.confidence.isFinite = true) :
    ofJson? narrative.toJson = some narrative.toDraft :=
  reads_toJson few finite _ (.inl rfl)

end Json

attribute [ext] Narrative

namespace Narrative

/-- The narrative without the blank space at the ends of its texts. -/
def trimmed (narrative : Narrative) : Narrative :=
  { narrative with
    densityReasoning := Text.trim narrative.densityReasoning
    keyPlayers := narrative.keyPlayers.map fun player =>
      { player with note := Text.trim player.note }
    blockingRisk :=
      { narrative.blockingRisk with reasoning := Text.trim narrative.blockingRisk.reasoning }
    designAround :=
      { narrative.designAround with reasoning := Text.trim narrative.designAround.reasoning }
    whiteSpace := narrative.whiteSpace.map Text.trim
    determinationReasoning := Text.trim narrative.determinationReasoning
    confidenceReason := Text.trim narrative.confidenceReason }

section Levels

variable (narrative : Narrative)

-- each level is spelled so that it is read as itself

@[simp] theorem readDensity_toDraft : narrative.toDraft.readDensity = narrative.density := by
  simp [DraftNarrative.readDensity, toDraft]

@[simp] theorem readLevel_toDraft : narrative.toDraft.readLevel = narrative.blockingRisk.level := by
  simp [DraftNarrative.readLevel, toDraft]

@[simp] theorem readDesign_toDraft :
    narrative.toDraft.readDesign = narrative.designAround.level := by
  simp [DraftNarrative.readDesign, toDraft]

@[simp] theorem readDetermination_toDraft :
    narrative.toDraft.readDetermination = narrative.determination := by
  simp [DraftNarrative.readDetermination, toDraft]

theorem recognises_toDraft (field : LevelField) :
    field.recognises (field.raw narrative.toDraft) = true := by
  cases field <;> simp [LevelField.recognises, LevelField.raw, toDraft]

end Levels

/-! ## The parts of a narrative -/

section Parts

variable {draft : DraftNarrative} {stats : Statistics} {assessments : List Assessment}

theorem player_player (given : KeyPlayer) :
    player stats (player stats given).1 =
      ({ (player stats given).1 with note := Text.trim (player stats given).1.note }, []) := by
  rw [player_eq stats given, player_eq]
  dsimp only
  rw [Text.isBlankText_trim, Text.trim_trim, Text.clamp_clamp]
  by_cases blank : Text.isBlankText given.name = true
  · simp [blank]
  · simp [blank]

theorem whiteSpaceOf_of_subset {entries kept : List String}
    (subset : kept ⊆ whiteSpaceOf entries) : whiteSpaceOf kept = kept.map Text.trim := by
  have again : kept.map (Text.clamp mostWhiteSpaceEntry) = kept.map Text.trim := by
    refine List.map_congr_left fun entry member => Text.clamp_eq_trim ?_
    exact Nat.le_trans (Text.size_le_length entry)
      (isBlankText_of_mem_whiteSpaceOf (subset member)).2
  rw [whiteSpaceOf, again, List.filter_eq_self]
  intro entry member
  obtain ⟨given, isKept, rfl⟩ := List.mem_map.1 member
  have written := (isBlankText_of_mem_whiteSpaceOf (subset isKept)).1
  simpa [← Text.isBlankText_iff] using written

theorem trim_of_mem_settledRisk {id : String}
    (member : id ∈ (settledRisk draft assessments).patentIds) :
    Text.trim id = id ∧ isMaterial assessments id = true := by
  obtain ⟨inIds, material⟩ := List.mem_filter.1 (mem_survivors_of_mem_settledRisk member)
  obtain ⟨given, -, rfl⟩ := List.mem_map.1 inIds
  exact ⟨Text.trim_trim given, material⟩

theorem survivors_toDraft :
    (reconciled draft stats assessments).toDraft.survivors assessments =
      (settledRisk draft assessments).patentIds := by
  have trimmed : (settledRisk draft assessments).patentIds.map Text.trim =
      (settledRisk draft assessments).patentIds :=
    calc (settledRisk draft assessments).patentIds.map Text.trim
        = (settledRisk draft assessments).patentIds.map id :=
          List.map_congr_left fun id member => (trim_of_mem_settledRisk member).1
      _ = (settledRisk draft assessments).patentIds := List.map_id _
  show ((settledRisk draft assessments).patentIds.map Text.trim).filter
    (isMaterial assessments) = (settledRisk draft assessments).patentIds
  rw [trimmed, List.filter_eq_self]
  intro id member
  exact (trim_of_mem_settledRisk member).2

/-- A risk that was settled is not lowered again. -/
theorem settledRisk_not_lowered : ¬((settledRisk draft assessments).level = .high ∧
    (settledRisk draft assessments).patentIds = []) := by
  rintro ⟨high, noIds⟩
  obtain ⟨named, survive⟩ := survivors_of_settledRisk_high high
  rw [patentIds_settledRisk_of_ne_none (by rw [named]; decide)] at noIds
  exact survive noIds

/-- No patents are left that a second reconciliation would clear. -/
theorem patentIds_settledRisk_of_none (none : (settledRisk draft assessments).level = .none) :
    (settledRisk draft assessments).patentIds = [] :=
  if_pos (settledRisk_none_iff.1 none)

/-- The risk is settled, so that it is left as it is but for the ends of its reasoning. -/
theorem settledRisk_toDraft :
    settledRisk (reconciled draft stats assessments).toDraft assessments =
      (reconciled draft stats assessments).trimmed.blockingRisk := by
  rw [settledRisk, readLevel_toDraft, survivors_toDraft]
  show BlockingRisk.mk
      (if (settledRisk draft assessments).level = .high ∧
        (settledRisk draft assessments).patentIds = [] then .medium
        else (settledRisk draft assessments).level)
      (if (settledRisk draft assessments).level = .none then []
        else (settledRisk draft assessments).patentIds)
      (Text.clamp mostBlockingReasoning
        (Text.clamp mostBlockingReasoning draft.blockingRisk.reasoning)) = _
  rw [if_neg settledRisk_not_lowered, Text.clamp_clamp,
    ite_eq_right_iff.2 fun none => (patentIds_settledRisk_of_none none).symm]
  rfl

theorem length_keyPlayers_reconciled :
    (reconciled draft stats assessments).keyPlayers.length ≤ mostKeyPlayers := by
  rw [reconciled, List.length_map]
  exact List.length_take_le ..

theorem keyPlayers_toDraft :
    (reconciled (reconciled draft stats assessments).toDraft stats assessments).keyPlayers =
      (reconciled draft stats assessments).trimmed.keyPlayers := by
  show ((reconciled draft stats assessments).keyPlayers.take mostKeyPlayers).map
      (fun given => (player stats given).1) =
    (reconciled draft stats assessments).keyPlayers.map
      fun player => { player with note := Text.trim player.note }
  rw [List.take_of_length_le length_keyPlayers_reconciled]
  apply List.map_congr_left
  intro kept member
  obtain ⟨given, -, rfl⟩ := List.mem_map.1 member
  rw [player_player]

theorem whiteSpaceOf_toDraft :
    whiteSpaceOf (reconciled draft stats assessments).whiteSpace =
      (reconciled draft stats assessments).trimmed.whiteSpace :=
  whiteSpaceOf_of_subset (List.take_subset _ _)

theorem whiteSpace_toDraft :
    (reconciled (reconciled draft stats assessments).toDraft stats assessments).whiteSpace =
      (reconciled draft stats assessments).trimmed.whiteSpace := by
  show (whiteSpaceOf (reconciled draft stats assessments).whiteSpace).take mostWhiteSpace = _
  rw [whiteSpaceOf_toDraft]
  apply List.take_of_length_le
  show ((reconciled draft stats assessments).whiteSpace.map Text.trim).length ≤ mostWhiteSpace
  rw [List.length_map, reconciled]
  exact List.length_take_le ..

/-- The determination agrees with the risk, so that no other one is forced. -/
theorem determination_toDraft :
    (reconciled (reconciled draft stats assessments).toDraft stats assessments).determination =
      (reconciled draft stats assessments).determination := by
  show (if (settledRisk (reconciled draft stats assessments).toDraft assessments).level = .high
    then .blockingArtFound else (reconciled draft stats assessments).toDraft.readDetermination) = _
  rw [settledRisk_toDraft, readDetermination_toDraft, ite_eq_right_iff]
  intro high
  exact (if_pos high).symm

/-- **The narrative again.** It becomes itself but for the ends of its texts. -/
theorem reconciled_toDraft :
    reconciled (reconciled draft stats assessments).toDraft stats assessments =
      (reconciled draft stats assessments).trimmed := by
  ext1
  case density => exact readDensity_toDraft _
  case densityReasoning => exact Text.clamp_clamp ..
  case keyPlayers => exact keyPlayers_toDraft
  case blockingRisk => exact settledRisk_toDraft
  case designAround =>
    show DesignAround.mk (reconciled draft stats assessments).toDraft.readDesign
      (Text.clamp mostDesignReasoning (Text.clamp mostDesignReasoning
        draft.designAround.reasoning)) = _
    rw [readDesign_toDraft, Text.clamp_clamp]
    rfl
  case whiteSpace => exact whiteSpace_toDraft
  case determination => exact determination_toDraft
  case determinationReasoning => exact Text.clamp_clamp ..
  case confidence =>
    exact Binary64.clampToUnit_eq_self (Binary64.inUnitInterval_clampToUnit draft.confidence)
  case confidenceReason => exact Text.clamp_clamp ..

/-! ## The corrections again -/

theorem given_toDraft_le (field : ListField) :
    field.given (reconciled draft stats assessments).toDraft ≤ field.most := by
  cases field with
  | whiteSpace =>
    apply Nat.le_trans (List.countP_le_length ..)
    exact List.length_take_le ..
  | keyPlayers => exact @length_keyPlayers_reconciled draft stats assessments

theorem due_toDraft_eq_nil {subject : Correction.Subject} (notReason : subject ≠ .confidenceReason)
    (notField : subject ≠ .clearField) :
    due (reconciled draft stats assessments).toDraft stats assessments subject = [] := by
  cases subject with
  | level field => rw [due, recognises_toDraft, if_neg (by decide)]
  | confidenceReason => exact absurd rfl notReason
  | length field => rw [due, if_neg (Nat.not_lt.2 (given_toDraft_le field))]
  | patentCount =>
    rw [due, List.flatMap_eq_nil_iff]
    intro kept member
    obtain ⟨given, -, rfl⟩ := List.mem_map.1 (List.mem_of_mem_take member)
    rw [player_player]
  | confidence =>
    rw [due, Binary64.same_clampToUnit, if_pos]
    exact Binary64.inUnitInterval_clampToUnit draft.confidence
  | blockingId =>
    rw [due, List.map_eq_nil_iff, List.filter_eq_nil_iff]
    intro id member
    obtain ⟨kept, isKept, rfl⟩ := List.mem_map.1 member
    obtain ⟨trimmed, material⟩ := trim_of_mem_settledRisk isKept
    simp [trimmed, material]
  | downgrade =>
    rw [due, readLevel_toDraft, survivors_toDraft]
    exact if_neg settledRisk_not_lowered
  | clearing =>
    rw [due, readLevel_toDraft, survivors_toDraft]
    exact if_neg fun cleared => cleared.2 (patentIds_settledRisk_of_none cleared.1)
  | determination =>
    rw [due, settledRisk_toDraft, readDetermination_toDraft]
    exact if_neg fun forced => forced.2 (if_pos forced.1)
  | clearField => exact absurd rfl notField

theorem size_toDraft :
    Text.size (Text.clamp mostConfidenceReason
      (reconciled draft stats assessments).toDraft.confidenceReason) =
      Text.size (Text.clamp mostConfidenceReason draft.confidenceReason) := by
  show Text.size (Text.clamp mostConfidenceReason
    (Text.clamp mostConfidenceReason draft.confidenceReason)) = _
  rw [Text.clamp_clamp, Text.size_trim]

/-- What is due on a subject for the second time is what was remarked the first time. -/
theorem due_toDraft (subject : Correction.Subject) :
    due (reconciled draft stats assessments).toDraft stats assessments subject =
      (due draft stats assessments subject).filter (·.isRemark) := by
  by_cases isReason : subject = .confidenceReason
  · subst isReason
    rw [due, due, size_toDraft]
    by_cases short : Text.size (Text.clamp mostConfidenceReason draft.confidenceReason) <
        leastConfidenceReason
    · rw [if_pos short]
      rfl
    · rw [if_neg short]
      rfl
  by_cases isField : subject = .clearField
  · subst isField
    rw [due, due, settledRisk_toDraft, readDensity_toDraft, determination_toDraft]
    by_cases unclear : (settledRisk draft assessments).level = .none ∧
        draft.readDensity = .sparse ∧
        (reconciled draft stats assessments).determination ≠ .clearField
    · rw [if_pos unclear]
      exact if_pos unclear
    · rw [if_neg unclear]
      exact if_neg unclear
  rw [due_toDraft_eq_nil isReason isField, eq_comm, List.filter_eq_nil_iff]
  intro correction member remark
  rw [← subject_of_mem_due member] at isReason isField
  exact (Correction.subject_of_isRemark remark).elim isReason isField

theorem log_toDraft :
    log (reconciled draft stats assessments).toDraft stats assessments =
      (log draft stats assessments).filter (·.isRemark) := by
  unfold log
  rw [List.filter_flatMap]
  congr 1
  funext subject
  exact due_toDraft subject

end Parts

/-! ## A second reconciliation -/

/-- What a narrative says is upheld in another one, and its texts but for their ends. -/
structure IsUpheld (narrative again : Narrative) : Prop where
  density : again.density = narrative.density
  blockingLevel : again.blockingRisk.level = narrative.blockingRisk.level
  patentIds : again.blockingRisk.patentIds = narrative.blockingRisk.patentIds
  designLevel : again.designAround.level = narrative.designAround.level
  determination : again.determination = narrative.determination
  confidence : again.confidence = narrative.confidence
  keyPlayers : again.keyPlayers.map (fun player => (player.name, player.patentCount)) =
    narrative.keyPlayers.map fun player => (player.name, player.patentCount)
  whiteSpace : again.whiteSpace.length = narrative.whiteSpace.length
  texts : again.texts = narrative.texts.map fun text => (text.1, Text.trim text.2)

theorem isUpheld_trimmed (narrative : Narrative) : narrative.IsUpheld narrative.trimmed where
  density := rfl
  blockingLevel := rfl
  patentIds := rfl
  designLevel := rfl
  determination := rfl
  confidence := rfl
  keyPlayers := by simp [trimmed]
  whiteSpace := by simp [trimmed]
  texts := by
    simp only [texts, trimmed, List.map_append, List.map_map]
    rfl

/-- **Fixpoint.** A narrative that was accepted is accepted again as a draft. All that it says is
upheld, nothing is changed, and the remarks are those that were made before. -/
theorem isUpheld_of_reconcile {draft : DraftNarrative} {stats : Statistics}
    {assessments : List Assessment} {narrative : Narrative} {corrections : List Correction}
    (ok : reconcile draft stats assessments = .ok (narrative, corrections)) :
    (∃ again, reconcile narrative.toDraft stats assessments =
        .ok (again, corrections.filter (·.isRemark)) ∧ narrative.IsUpheld again) ∧
    ((∀ player ∈ narrative.keyPlayers, player.patentCount ≤ KeyPlayer.mostPatents) →
      DraftNarrative.ofJson? narrative.toJson = some narrative.toDraft) := by
  obtain ⟨some, rfl, rfl⟩ := reconcile_eq_ok ok
  constructor
  · refine ⟨_, ?_, isUpheld_trimmed _⟩
    have stillSome : whiteSpaceOf (reconciled draft stats assessments).toDraft.whiteSpace ≠ [] := by
      show whiteSpaceOf (reconciled draft stats assessments).whiteSpace ≠ []
      rw [whiteSpaceOf_toDraft]
      intro none
      have nonempty := (@length_whiteSpace_reconciled draft stats assessments some).1
      rw [List.map_eq_nil_iff.1 none] at nonempty
      cases nonempty
    rw [reconcile_eq, if_neg stillSome, reconciled_toDraft, log_toDraft]
  · intro few
    have inside := Binary64.inUnitInterval_clampToUnit draft.confidence
    exact DraftNarrative.ofJson?_toJson few (Binary64.inUnitInterval_iff.1 inside).1

/-- A draft that calls a sparse landscape without risk crowded, and names a blocking patent all the
same. -/
def muddled : DraftNarrative :=
  { hasty with
    density := "sparse"
    blockingRisk := ⟨"unclear", [" P1 ", "P9"], ""⟩
    determination := "crowded_field" }

theorem reconcile_muddled : reconcile muddled hastyStatistics hastyRatings =
    .ok (reconciled muddled hastyStatistics hastyRatings,
      log muddled hastyStatistics hastyRatings) := by
  have accepted : whiteSpaceOf muddled.whiteSpace ≠ [] := by decide +kernel
  rw [reconcile_eq, if_neg accepted]

/-- Of eleven corrections the two remarks are made again. -/
theorem isUpheld_of_reconcile_muddled : ∃ narrative corrections,
    reconcile muddled hastyStatistics hastyRatings = .ok (narrative, corrections) ∧
      corrections.length = 11 ∧ narrative.blockingRisk.patentIds = [] ∧
      DraftNarrative.ofJson? narrative.toJson = some narrative.toDraft ∧
      ∃ again, reconcile narrative.toDraft hastyStatistics hastyRatings =
          .ok (again, [.shortConfidenceReason 4, .inconsistentClearField .crowdedField]) ∧
        narrative.IsUpheld again := by
  obtain ⟨⟨again, accepted, upheld⟩, readBack⟩ := isUpheld_of_reconcile reconcile_muddled
  have remarks : (log muddled hastyStatistics hastyRatings).filter (·.isRemark) =
      [.shortConfidenceReason 4, .inconsistentClearField .crowdedField] := by decide +kernel
  rw [remarks] at accepted
  exact ⟨_, _, reconcile_muddled, by decide +kernel, by decide +kernel,
    readBack (by decide +kernel), again, accepted, upheld⟩

end Narrative

end PriorArt
