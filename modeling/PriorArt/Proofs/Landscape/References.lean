import PriorArt.Proofs.Landscape.Reconciliation

/-!
# What a landscape refers to

The list of prior art and the blocking patents of a narrative refer to material assessments only
(`Statistics.mem_topPriorArt`, `Narrative.material_of_reconcile`), whatever the draft of the
narrative names.
-/

namespace PriorArt

/-- The patent with an identifier is of high or of medium relevance. -/
def HasMaterial (assessments : List Assessment) (id : String) : Prop :=
  ∃ assessment ∈ assessments,
    (assessment.relevance = .high ∨ assessment.relevance = .medium) ∧ assessment.patentId = id

namespace Statistics

theorem mem_material {patents : List PatentRecord} {assessments : List Assessment}
    {patent : PatentRecord} {assessment : Assessment}
    (h : (patent, assessment) ∈ material patents assessments) :
    assessment ∈ assessments ∧ assessment.relevance.isMaterial = true := by
  obtain ⟨rated, isRated, form⟩ := List.mem_filterMap.1 h
  obtain ⟨found, -, same⟩ := Option.map_eq_some_iff.1 form
  cases same
  exact List.mem_filter.1 isRated

theorem mem_topPriorArt {elements : List NovelElement} {patents : List PatentRecord}
    {assessments : List Assessment} {entry : PriorArtEntry}
    (h : entry ∈ (compute elements patents assessments).topPriorArt) :
    HasMaterial assessments entry.patentId := by
  obtain ⟨⟨patent, assessment⟩, isMember, rfl⟩ :=
    List.mem_map.1 (mem_sortBy.1 (List.mem_of_mem_take h))
  obtain ⟨isRated, material⟩ := mem_material isMember
  exact ⟨assessment, isRated, Relevance.isMaterial_iff.1 material, rfl⟩

end Statistics

namespace Narrative

theorem isMaterial_iff {assessments : List Assessment} {id : String} :
    isMaterial assessments id = true ↔ HasMaterial assessments id := by
  simp [isMaterial, HasMaterial, Relevance.isMaterial_iff]

instance (assessments : List Assessment) (id : String) : Decidable (HasMaterial assessments id) :=
  decidable_of_iff _ isMaterial_iff

theorem survivors_eq (draft : DraftNarrative) (assessments : List Assessment) :
    draft.survivors assessments =
      (draft.blockingRisk.patentIds.map Text.trim).filter (HasMaterial assessments ·) :=
  List.filter_congr fun _ _ => by rw [Bool.eq_iff_iff, isMaterial_iff, decide_eq_true_iff]

/-- Settling a risk adds no patents. -/
theorem mem_survivors_of_mem_settledRisk {draft : DraftNarrative} {assessments : List Assessment}
    {id : String} (h : id ∈ (settledRisk draft assessments).patentIds) :
    id ∈ draft.survivors assessments := by
  simp only [settledRisk] at h
  split at h
  · cases h
  · exact h

theorem material_of_reconcile {draft : DraftNarrative} {stats : Statistics}
    {assessments : List Assessment} {narrative : Narrative} {corrections : List Correction}
    (h : reconcile draft stats assessments = .ok (narrative, corrections)) :
    ∀ id ∈ narrative.blockingRisk.patentIds, HasMaterial assessments id := by
  obtain ⟨-, rfl, -⟩ := reconcile_eq_ok h
  intro id member
  exact isMaterial_iff.1 (List.mem_filter.1 (mem_survivors_of_mem_settledRisk member)).2

end Narrative

end PriorArt
