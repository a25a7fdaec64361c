import Mathlib.Data.List.Forall2
import PriorArt.Proofs.Landscape.References

/-!
# Consistency of a narrative

1. `Narrative.IsConsistent`: what a narrative that is accepted satisfies, whatever the draft says.
   The risk settles first and the determination after it, so that neither undoes the other
   (`Narrative.isConsistent_reconcile`).
2. `Narrative.IsRecounted`: the key players have the computed numbers of patents, those without a
   name excepted (`Narrative.isRecounted_of_reconcile`).
-/

namespace PriorArt

namespace Narrative

/-! ## Levels, lists and texts -/

/-- The free texts of a narrative, each with the greatest number of its characters. -/
def texts (narrative : Narrative) : List (Nat × String) :=
  [(mostDensityReasoning, narrative.densityReasoning),
    (mostBlockingReasoning, narrative.blockingRisk.reasoning),
    (mostDesignReasoning, narrative.designAround.reasoning),
    (mostDeterminationReasoning, narrative.determinationReasoning),
    (mostConfidenceReason, narrative.confidenceReason)] ++
  narrative.keyPlayers.map (fun player => (mostNote, player.note)) ++
  narrative.whiteSpace.map fun entry => (mostWhiteSpaceEntry, entry)

/-- The narrative agrees with itself, with the assessments, and with the bounds of its parts. -/
structure IsConsistent (draft : DraftNarrative) (assessments : List Assessment)
    (narrative : Narrative) : Prop where
  high : narrative.blockingRisk.level = .high →
    narrative.blockingRisk.patentIds ≠ [] ∧ narrative.determination = .blockingArtFound
  none : narrative.blockingRisk.level = .none → narrative.blockingRisk.patentIds = []
  material : ∀ id ∈ narrative.blockingRisk.patentIds, HasMaterial assessments id
  kept : narrative.blockingRisk.level ≠ .none → narrative.blockingRisk.patentIds =
    (draft.blockingRisk.patentIds.map Text.trim).filter (HasMaterial assessments ·)
  whiteSpace : 1 ≤ narrative.whiteSpace.length ∧ narrative.whiteSpace.length ≤ mostWhiteSpace
  written : ∀ entry ∈ narrative.whiteSpace, Text.isBlankText entry = false
  keyPlayers : narrative.keyPlayers.length ≤ mostKeyPlayers
  confidence : narrative.confidence.isFinite = true ∧ narrative.confidence.inUnitInterval = true
  texts : ∀ text ∈ narrative.texts, text.2.length ≤ text.1

variable {draft : DraftNarrative} {stats : Statistics} {assessments : List Assessment}
  {narrative : Narrative} {corrections : List Correction}

theorem survivors_of_settledRisk_high (high : (settledRisk draft assessments).level = .high) :
    draft.readLevel = .high ∧ draft.survivors assessments ≠ [] := by
  simp only [settledRisk] at high
  split at high
  next => cases high
  next notLowered => exact ⟨high, fun none => notLowered ⟨high, none⟩⟩

/-- A risk is none exactly if it was so from the start. -/
theorem settledRisk_none_iff :
    (settledRisk draft assessments).level = .none ↔ draft.readLevel = .none := by
  simp only [settledRisk]
  split
  next lowered => simp [lowered.1]
  next => exact Iff.rfl

theorem patentIds_settledRisk_of_ne_none (some : draft.readLevel ≠ .none) :
    (settledRisk draft assessments).patentIds = draft.survivors assessments :=
  if_neg some

theorem isBlankText_of_mem_whiteSpaceOf {entries : List String} {entry : String}
    (h : entry ∈ whiteSpaceOf entries) :
    Text.isBlankText entry = false ∧ entry.length ≤ mostWhiteSpaceEntry := by
  obtain ⟨member, nonempty⟩ := List.mem_filter.1 h
  obtain ⟨given, -, rfl⟩ := List.mem_map.1 member
  refine ⟨?_, Text.length_clamp_le ..⟩
  have positive : 0 < mostWhiteSpaceEntry := by decide
  rw [Text.isBlankText_clamp positive, Bool.eq_false_iff, ne_eq, ← Text.clamp_eq_empty_iff positive]
  simpa using nonempty

theorem length_note_player_le (given : KeyPlayer) :
    (player stats given).1.note.length ≤ mostNote := by
  rw [player_eq]
  exact Text.length_clamp_le ..

theorem length_texts_reconciled {text : Nat × String}
    (member : text ∈ (reconciled draft stats assessments).texts) : text.2.length ≤ text.1 := by
  rcases List.mem_append.1 member with member | ofEntry
  · rcases List.mem_append.1 member with reasoning | ofPlayer
    · simp only [List.mem_cons, List.not_mem_nil, or_false] at reasoning
      obtain rfl | rfl | rfl | rfl | rfl := reasoning <;> exact Text.length_clamp_le ..
    · obtain ⟨kept, isKept, rfl⟩ := List.mem_map.1 ofPlayer
      obtain ⟨given, -, rfl⟩ := List.mem_map.1 isKept
      exact length_note_player_le given
  · obtain ⟨entry, isEntry, rfl⟩ := List.mem_map.1 ofEntry
    exact (isBlankText_of_mem_whiteSpaceOf (List.mem_of_mem_take isEntry)).2

theorem length_whiteSpace_reconciled (some : whiteSpaceOf draft.whiteSpace ≠ []) :
    1 ≤ (reconciled draft stats assessments).whiteSpace.length ∧
      (reconciled draft stats assessments).whiteSpace.length ≤ mostWhiteSpace := by
  have given : 0 < (whiteSpaceOf draft.whiteSpace).length := List.length_pos_iff.2 some
  simp only [reconciled, List.length_take]
  exact ⟨Nat.le_min.2 ⟨by decide, given⟩, Nat.min_le_left ..⟩

/-- **Consistency.** A narrative that is accepted is consistent, and only a draft whose white space
is blank throughout is refused. -/
theorem isConsistent_reconcile (draft : DraftNarrative) (stats : Statistics)
    (assessments : List Assessment) :
    (∀ narrative corrections, reconcile draft stats assessments = .ok (narrative, corrections) →
      narrative.IsConsistent draft assessments) ∧
    ((∃ violation, reconcile draft stats assessments = .error violation) ↔
      ∀ entry ∈ draft.whiteSpace, Text.isBlankText entry = true) := by
  refine ⟨fun narrative corrections ok => ?_, reconcile_eq_error_iff⟩
  have material := material_of_reconcile ok
  obtain ⟨some, rfl, -⟩ := reconcile_eq_ok ok
  exact {
    high := fun high => by
      obtain ⟨named, survive⟩ := survivors_of_settledRisk_high high
      refine ⟨?_, if_pos high⟩
      rwa [reconciled, patentIds_settledRisk_of_ne_none (by rw [named]; decide)]
    none := fun none => if_pos (settledRisk_none_iff.1 none)
    material
    kept := fun risk => by
      rw [← survivors_eq]
      exact patentIds_settledRisk_of_ne_none (mt settledRisk_none_iff.2 risk)
    whiteSpace := length_whiteSpace_reconciled some
    written := fun entry member =>
      (isBlankText_of_mem_whiteSpaceOf (List.mem_of_mem_take member)).1
    keyPlayers := by
      rw [reconciled, List.length_map]
      exact List.length_take_le ..
    confidence := by
      have inside := Binary64.inUnitInterval_clampToUnit draft.confidence
      exact ⟨(Binary64.inUnitInterval_iff.1 inside).1, inside⟩
    texts := fun text member => length_texts_reconciled member }

/-! ## A hasty draft -/

/-- A draft that names more players and more white space than are kept, two of them blank, and a
patent that nobody assessed. Its confidence is not a number. -/
def hasty : DraftNarrative where
  density := "crowded"
  densityReasoning := "Many rules"
  keyPlayers := [⟨" acme corp ", 40, ""⟩, ⟨"  ", 7, ""⟩, ⟨"Nobody", 0, ""⟩, ⟨"ACME CORP", 1, ""⟩,
    ⟨"Unheard of", 3, ""⟩, ⟨"One too many", 2, ""⟩]
  blockingRisk := ⟨" high ", [" P1 ", "P9"], "Its first claim reads on the seal."⟩
  designAround := ⟨"Trivial", ""⟩
  whiteSpace := ["ice", " ", "salt", "sand", "silt", "clay", "loam"]
  determination := "clear_field"
  determinationReasoning := ""
  confidence := .nan
  confidenceReason := "Sure"

def hastyPatents : List PatentRecord :=
  [⟨"P1", "Seal", "", "2022-05-01", none, ["Acme Corp"], ["E02B"], [], ["A_broad"], 1⟩]

def hastyRatings : List Assessment :=
  [⟨"P1", .high, "The same seal", [], .one⟩]

def hastyStatistics : Statistics :=
  .compute [] hastyPatents hastyRatings

theorem reconcile_hasty : reconcile hasty hastyStatistics hastyRatings =
    .ok (reconciled hasty hastyStatistics hastyRatings,
      log hasty hastyStatistics hastyRatings) := by
  have accepted : whiteSpaceOf hasty.whiteSpace ≠ [] := by decide +kernel
  rw [reconcile_eq, if_neg accepted]

theorem isConsistent_reconcile_hasty : ∃ narrative corrections,
    reconcile hasty hastyStatistics hastyRatings = .ok (narrative, corrections) ∧
      narrative.IsConsistent hasty hastyRatings ∧ narrative.blockingRisk.level = .high ∧
      narrative.blockingRisk.patentIds = ["P1"] ∧ narrative.determination = .blockingArtFound ∧
      narrative.whiteSpace = ["ice", "salt", "sand", "silt", "clay"] ∧
      narrative.confidence = .zero :=
  ⟨_, _, reconcile_hasty, (isConsistent_reconcile ..).1 _ _ reconcile_hasty,
    by decide +kernel, by decide +kernel, by decide +kernel, by decide +kernel, by decide +kernel⟩

/-! ## Key players -/

theorem name_player (given : KeyPlayer) : (player stats given).1.name = Text.trim given.name := by
  rw [player_eq]

theorem name_player_eq_empty_iff (given : KeyPlayer) :
    (player stats given).1.name = "" ↔ Text.isBlankText given.name = true := by
  rw [name_player, Text.isBlankText_iff]

/-- The number is the computed one, except where there is no name. -/
theorem patentCount_player (given : KeyPlayer) : (player stats given).1.patentCount =
    if Text.isBlankText given.name then given.patentCount
    else stats.assigneeCount (player stats given).1.name := by
  rw [player_eq]

/-- The key players have the computed numbers of patents, and those without a name the given
ones. -/
structure IsRecounted (draft : DraftNarrative) (stats : Statistics) (narrative : Narrative) :
    Prop where
  named : ∀ kept ∈ narrative.keyPlayers, kept.name ≠ "" →
    kept.patentCount = stats.assigneeCount kept.name
  given : List.Forall₂
    (fun given kept => kept.name = Text.trim given.name ∧
      (kept.name = "" → kept.patentCount = given.patentCount))
    (draft.keyPlayers.take mostKeyPlayers) narrative.keyPlayers
  throughout :
    (∀ kept ∈ narrative.keyPlayers, kept.patentCount = stats.assigneeCount kept.name) ↔
      ∀ given ∈ draft.keyPlayers.take mostKeyPlayers, Text.isBlankText given.name = true →
        given.patentCount = 0

/-- **Key players.** The number of patents of a key player that has a name is the computed one,
whatever the draft reports. That of a player without a name is left as it is, so that all numbers
are the computed ones only if no such player is said to hold a patent. -/
theorem isRecounted_of_reconcile {elements : List NovelElement} {patents : List PatentRecord}
    {rated : List Assessment}
    (ok : reconcile draft (.compute elements patents rated) assessments =
      .ok (narrative, corrections)) :
    narrative.IsRecounted draft (.compute elements patents rated) := by
  obtain ⟨-, rfl, -⟩ := reconcile_eq_ok ok
  set stats := Statistics.compute elements patents rated with computed
  have named (given : KeyPlayer) (written : Text.isBlankText given.name = false) :
      (player stats given).1.patentCount = stats.assigneeCount (player stats given).1.name := by
    rw [patentCount_player, written]
    rfl
  have unnamed (given : KeyPlayer) (blank : Text.isBlankText given.name = true) :
      (player stats given).1.patentCount = given.patentCount ∧
        stats.assigneeCount (player stats given).1.name = 0 := by
    refine ⟨by rw [patentCount_player, if_pos blank], ?_⟩
    rw [(name_player_eq_empty_iff given).2 blank]
    exact Statistics.assigneeCount_compute_of_isBlankText rfl
  exact {
    named := List.forall_mem_map.2 fun given _ hasName =>
      named given (Bool.eq_false_iff.2 (mt (name_player_eq_empty_iff given).2 hasName))
    given := by
      refine List.forall₂_map_right_iff.2 (List.forall₂_same.2 fun given _ => ?_)
      refine ⟨name_player given, fun noName => ?_⟩
      exact (unnamed given ((name_player_eq_empty_iff given).1 noName)).1
    throughout := by
      rw [reconciled, List.forall_mem_map]
      refine forall₂_congr fun given _ => ?_
      cases written : Text.isBlankText given.name with
      | false => exact iff_of_true (named given written) (nofun)
      | true =>
        obtain ⟨same, zero⟩ := unnamed given written
        rw [same, zero]
        exact ⟨fun none _ => none, fun none => none rfl⟩ }

theorem isRecounted_of_reconcile_hasty : ∃ narrative corrections,
    reconcile hasty hastyStatistics hastyRatings = .ok (narrative, corrections) ∧
      narrative.IsRecounted hasty hastyStatistics ∧
      narrative.keyPlayers.map (fun kept => (kept.name, kept.patentCount)) =
        [("acme corp", 1), ("", 7), ("Nobody", 0), ("ACME CORP", 1), ("Unheard of", 0)] :=
  ⟨_, _, reconcile_hasty, isRecounted_of_reconcile reconcile_hasty, by decide +kernel⟩

/-- The draft with one player only, whose name is blank. -/
def nameless : DraftNarrative :=
  { hasty with keyPlayers := [⟨"  ", 7, ""⟩], confidence := .zero }

/-- A player without a name keeps a number that is not the computed one. -/
theorem patentCount_nameless : ∃ narrative corrections,
    reconcile nameless hastyStatistics hastyRatings = .ok (narrative, corrections) ∧
      ∃ kept ∈ narrative.keyPlayers,
        kept.patentCount ≠ hastyStatistics.assigneeCount kept.name := by
  have accepted : whiteSpaceOf nameless.whiteSpace ≠ [] := by decide +kernel
  have ok : reconcile nameless hastyStatistics hastyRatings =
      .ok (reconciled nameless hastyStatistics hastyRatings,
        log nameless hastyStatistics hastyRatings) := by
    rw [reconcile_eq, if_neg accepted]
  exact ⟨_, _, ok, ⟨"", 7, ""⟩, by decide +kernel, by decide +kernel⟩

end Narrative

end PriorArt
