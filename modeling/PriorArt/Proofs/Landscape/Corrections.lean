import PriorArt.Proofs.Landscape.Consistency

/-!
# Faithfulness of the corrections

Which corrections are recorded for a draft that is accepted, kind by kind, in both directions: what
is changed is recorded, and nothing else is (`Narrative.isRecorded_of_reconcile`). The corrections
on one subject are read off the log without regard to the others (`Narrative.mem_log_iff`), so that
each kind is settled by its own condition.
-/

namespace PriorArt

namespace Narrative

/-- The corrections are what was changed about the draft and what is remarked on the narrative. -/
structure IsRecorded (draft : DraftNarrative) (stats : Statistics) (assessments : List Assessment)
    (narrative : Narrative) (corrections : List Correction) : Prop where
  defaulted (field : LevelField) (raw applied : String) :
    .levelDefaulted field raw applied ∈ corrections ↔
      raw = field.raw draft ∧ field.recognises raw = false ∧ applied = field.default
  dropped : corrections.filter (·.subject = .blockingId) =
    ((draft.blockingRisk.patentIds.map Text.trim).filter fun id => ¬HasMaterial assessments id).map
      .blockingIdDropped
  downgraded : .blockingRiskDowngraded ∈ corrections ↔
    BlockingLevel.ofText? draft.blockingRisk.level = some .high ∧ draft.survivors assessments = []
  cleared (count : Nat) : .blockingIdsCleared count ∈ corrections ↔
    draft.readLevel = .none ∧ 0 < count ∧ (draft.survivors assessments).length = count
  forced (was : Determination) : .determinationForced was ∈ corrections ↔
    narrative.blockingRisk.level = .high ∧ was = draft.readDetermination ∧ was ≠ .blockingArtFound
  clamped (reported applied : Binary64) : .confidenceClamped reported applied ∈ corrections ↔
    reported = draft.confidence ∧ applied = narrative.confidence ∧ applied.same reported = false
  outside : (∃ reported applied, .confidenceClamped reported applied ∈ corrections) ↔
    draft.confidence.inUnitInterval = false
  truncated (field : ListField) (kept dropped : Nat) :
    .truncated field kept dropped ∈ corrections ↔
      field.most < field.given draft ∧ kept = field.most ∧ kept + dropped = field.given draft
  recounted : corrections.filter (·.subject = .patentCount) =
    ((draft.keyPlayers.take mostKeyPlayers).filter fun given =>
      Text.isBlankText given.name = false ∧
        given.patentCount ≠ stats.assigneeCount (Text.trim given.name)).map fun given =>
      .keyPlayerCount (Text.trim given.name) given.patentCount
        (stats.assigneeCount (Text.trim given.name))
  remarked (determination : Determination) :
    .inconsistentClearField determination ∈ corrections ↔
      narrative.blockingRisk.level = .none ∧ narrative.density = .sparse ∧
        determination = narrative.determination ∧ determination ≠ .clearField
  short (size : Nat) : .shortConfidenceReason size ∈ corrections ↔
    size = Text.size narrative.confidenceReason ∧ size < leastConfidenceReason
  once : ∀ correction ∈ corrections, correction.subject ≠ .blockingId →
    correction.subject ≠ .patentCount →
    corrections.filter (·.subject = correction.subject) = [correction]

variable {draft : DraftNarrative} {stats : Statistics} {assessments : List Assessment}
  {narrative : Narrative} {corrections : List Correction}

/-! ## Each kind of correction -/

theorem levelDefaulted_mem_log_iff {field : LevelField} {raw applied : String} :
    .levelDefaulted field raw applied ∈ log draft stats assessments ↔
      raw = field.raw draft ∧ field.recognises raw = false ∧ applied = field.default := by
  rw [mem_log_iff, Correction.subject, due, List.mem_ite_nil_right, List.mem_singleton,
    Correction.levelDefaulted.injEq]
  constructor
  · rintro ⟨unknown, -, rfl, rfl⟩
    exact ⟨rfl, unknown, rfl⟩
  · rintro ⟨rfl, unknown, rfl⟩
    exact ⟨unknown, rfl, rfl, rfl⟩

theorem filter_blockingId_log : (log draft stats assessments).filter (·.subject = .blockingId) =
    ((draft.blockingRisk.patentIds.map Text.trim).filter fun id => ¬HasMaterial assessments id).map
      .blockingIdDropped := by
  rw [filter_subject_log, due]
  congr 1
  refine List.filter_congr fun id _ => ?_
  rw [Bool.eq_iff_iff, Bool.not_eq_true', ← Bool.not_eq_true, isMaterial_iff, decide_eq_true_iff]

/-- A risk is read as high only if it is named so: what is not recognised counts as none. -/
theorem readLevel_high_iff :
    draft.readLevel = .high ↔ BlockingLevel.ofText? draft.blockingRisk.level = some .high := by
  rw [DraftNarrative.readLevel]
  cases BlockingLevel.ofText? draft.blockingRisk.level with
  | none => exact iff_of_false (by decide) (by decide)
  | some level => rw [Option.getD_some, Option.some_inj]

theorem blockingRiskDowngraded_mem_log_iff :
    .blockingRiskDowngraded ∈ log draft stats assessments ↔
      BlockingLevel.ofText? draft.blockingRisk.level = some .high ∧
        draft.survivors assessments = [] := by
  rw [mem_log_iff, Correction.subject, due, List.mem_ite_nil_right, readLevel_high_iff]
  exact and_iff_left List.mem_cons_self

theorem blockingIdsCleared_mem_log_iff {count : Nat} :
    .blockingIdsCleared count ∈ log draft stats assessments ↔
      draft.readLevel = .none ∧ 0 < count ∧ (draft.survivors assessments).length = count := by
  rw [mem_log_iff, Correction.subject, due, List.mem_ite_nil_right, List.mem_singleton,
    Correction.blockingIdsCleared.injEq, and_assoc, ← List.length_pos_iff]
  constructor
  · rintro ⟨none, some, rfl⟩
    exact ⟨none, some, rfl⟩
  · rintro ⟨none, some, rfl⟩
    exact ⟨none, some, rfl⟩

theorem determinationForced_mem_log_iff {was : Determination} :
    .determinationForced was ∈ log draft stats assessments ↔
      (settledRisk draft assessments).level = .high ∧ was = draft.readDetermination ∧
        was ≠ .blockingArtFound := by
  rw [mem_log_iff, Correction.subject, due, List.mem_ite_nil_right, List.mem_singleton,
    Correction.determinationForced.injEq, and_assoc]
  constructor
  · rintro ⟨high, differs, rfl⟩
    exact ⟨high, rfl, differs⟩
  · rintro ⟨high, rfl, differs⟩
    exact ⟨high, differs, rfl⟩

theorem confidenceClamped_mem_log_iff {reported applied : Binary64} :
    .confidenceClamped reported applied ∈ log draft stats assessments ↔
      reported = draft.confidence ∧ applied = draft.confidence.clampToUnit ∧
        applied.same reported = false := by
  rw [mem_log_iff, Correction.subject, due, List.mem_ite_nil_left, List.mem_singleton,
    Correction.confidenceClamped.injEq, Bool.not_eq_true]
  constructor
  · rintro ⟨differs, rfl, rfl⟩
    exact ⟨rfl, rfl, differs⟩
  · rintro ⟨rfl, rfl, differs⟩
    exact ⟨differs, rfl, rfl⟩

/-- The confidence is changed if it is not a number between zero and one. -/
theorem confidenceClamped_log_iff :
    (∃ reported applied, .confidenceClamped reported applied ∈ log draft stats assessments) ↔
      draft.confidence.inUnitInterval = false := by
  simp only [confidenceClamped_mem_log_iff]
  constructor
  · rintro ⟨_, _, rfl, rfl, differs⟩
    rwa [Binary64.same_clampToUnit] at differs
  · intro outside
    exact ⟨_, _, rfl, rfl, by rw [Binary64.same_clampToUnit, outside]⟩

theorem truncated_mem_log_iff {field : ListField} {kept dropped : Nat} :
    .truncated field kept dropped ∈ log draft stats assessments ↔
      field.most < field.given draft ∧ kept = field.most ∧ kept + dropped = field.given draft := by
  rw [mem_log_iff, Correction.subject, due, List.mem_ite_nil_right, List.mem_singleton,
    Correction.truncated.injEq]
  constructor
  · rintro ⟨many, -, rfl, rfl⟩
    exact ⟨many, rfl, Nat.add_sub_of_le (Nat.le_of_lt many)⟩
  · rintro ⟨many, rfl, all⟩
    exact ⟨many, rfl, rfl, Nat.eq_sub_of_add_eq' all⟩

/-- A number is recorded for each player with a name that is said to hold another one than the
computed. -/
theorem flatMap_player (players : List KeyPlayer) :
    players.flatMap (fun given => (player stats given).2) =
      (players.filter fun given => Text.isBlankText given.name = false ∧
        given.patentCount ≠ stats.assigneeCount (Text.trim given.name)).map fun given =>
      .keyPlayerCount (Text.trim given.name) given.patentCount
        (stats.assigneeCount (Text.trim given.name)) := by
  induction players with
  | nil => rfl
  | cons given rest ih =>
    rw [List.flatMap_cons, ih, player_eq, List.filter_cons]
    by_cases miscounted : Text.isBlankText given.name = false ∧
        given.patentCount ≠ stats.assigneeCount (Text.trim given.name)
    · rw [if_pos miscounted, if_pos (decide_eq_true miscounted)]
      rfl
    · rw [if_neg miscounted, if_neg (mt of_decide_eq_true miscounted)]
      rfl

theorem inconsistentClearField_mem_log_iff {determination : Determination} :
    .inconsistentClearField determination ∈ log draft stats assessments ↔
      (settledRisk draft assessments).level = .none ∧ draft.readDensity = .sparse ∧
        determination = (reconciled draft stats assessments).determination ∧
          determination ≠ .clearField := by
  rw [mem_log_iff, Correction.subject, due, List.mem_ite_nil_right, List.mem_singleton,
    Correction.inconsistentClearField.injEq, and_assoc, and_assoc]
  constructor
  · rintro ⟨none, sparse, differs, rfl⟩
    exact ⟨none, sparse, rfl, differs⟩
  · rintro ⟨none, sparse, rfl, differs⟩
    exact ⟨none, sparse, differs, rfl⟩

theorem shortConfidenceReason_mem_log_iff {size : Nat} :
    .shortConfidenceReason size ∈ log draft stats assessments ↔
      size = Text.size (reconciled draft stats assessments).confidenceReason ∧
        size < leastConfidenceReason := by
  rw [mem_log_iff, Correction.subject, due, List.mem_ite_nil_right, List.mem_singleton,
    Correction.shortConfidenceReason.injEq, reconciled, and_comm]
  exact and_congr_right fun same => by rw [same]

/-- Only dropped patents and changed numbers come several at a time. -/
theorem filter_subject_log_eq_singleton {correction : Correction}
    (member : correction ∈ log draft stats assessments)
    (notIds : correction.subject ≠ .blockingId) (notCounts : correction.subject ≠ .patentCount) :
    (log draft stats assessments).filter (·.subject = correction.subject) = [correction] := by
  have onSubject := mem_log_iff.1 member
  rw [filter_subject_log]
  obtain none | ⟨made, -, one⟩ := due_eq_nil_or_singleton notIds notCounts
  · rw [none] at onSubject
    cases onSubject
  · rw [one] at onSubject ⊢
    rw [List.mem_singleton.1 onSubject]

/-! ## All of them -/

/-- **Faithful corrections.** The corrections on a narrative that is accepted are what was changed
about its draft, each recorded once, and what is remarked on the narrative. -/
theorem isRecorded_of_reconcile
    (ok : reconcile draft stats assessments = .ok (narrative, corrections)) :
    IsRecorded draft stats assessments narrative corrections := by
  obtain ⟨-, rfl, rfl⟩ := reconcile_eq_ok ok
  exact {
    defaulted := fun _ _ _ => levelDefaulted_mem_log_iff
    dropped := filter_blockingId_log
    downgraded := blockingRiskDowngraded_mem_log_iff
    cleared := fun _ => blockingIdsCleared_mem_log_iff
    forced := fun _ => determinationForced_mem_log_iff
    clamped := fun _ _ => confidenceClamped_mem_log_iff
    outside := confidenceClamped_log_iff
    truncated := fun _ _ _ => truncated_mem_log_iff
    recounted := by rw [filter_subject_log, due, flatMap_player]
    remarked := fun _ => inconsistentClearField_mem_log_iff
    short := fun _ => shortConfidenceReason_mem_log_iff
    once := fun _ => filter_subject_log_eq_singleton }

theorem isRecorded_of_reconcile_hasty : ∃ narrative corrections,
    reconcile hasty hastyStatistics hastyRatings = .ok (narrative, corrections) ∧
      IsRecorded hasty hastyStatistics hastyRatings narrative corrections ∧
      corrections =
        [.levelDefaulted .designLevel "Trivial" "DIFFICULT", .shortConfidenceReason 4,
          .truncated .whiteSpace 5 1, .truncated .keyPlayers 5 1,
          .keyPlayerCount "acme corp" 40 1, .keyPlayerCount "Unheard of" 3 0,
          .confidenceClamped .nan .zero, .blockingIdDropped "P9",
          .determinationForced .clearField] :=
  ⟨_, _, reconcile_hasty, isRecorded_of_reconcile reconcile_hasty, by decide +kernel⟩

end Narrative

end PriorArt
