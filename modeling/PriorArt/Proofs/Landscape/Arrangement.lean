import PriorArt.Proofs.Landscape.Counts

/-!
# Statistics do not depend on the order of what they count

1. `Statistics.compute_eq_of_perm`: rearranged patents give the same statistics, the list of prior
   art with them, since each assessment still finds its patent (`Statistics.patent?_eq_of_perm`).
2. `Statistics.perm_material`: rearranged assessments give the same members in another order.
3. `Statistics.Agrees`: what two statistics have in common if one was computed from the data of the
   other in another order (`Statistics.agrees_compute_of_perm`). Of a frequency table that is cut
   off this holds because no two of its rows compare equal (`Tally.top_ofList_eq_of_perm`). The list
   of prior art is not part of it: entries of one relevance and one grant date follow the order of
   the assessments (`Statistics.topPriorArt_mixed`).
-/

namespace PriorArt

/-- The frequency table of a list does not depend on the order of the list, wherever it is cut
off. -/
theorem Tally.top_ofList_eq_of_perm {keys others : List String} (limit : Nat)
    (same : keys.Perm others) : (ofList keys).top limit = (ofList others).top limit :=
  top_eq_of_perm limit (perm_ofList same)

namespace Statistics

variable {elements : List NovelElement} {patents others : List PatentRecord}
  {assessments rated : List Assessment}

/-! ## Rearranged patents -/

/-- Of distinct patents each is found by its identifier, however they come. -/
theorem patent?_eq_of_perm (distinct : (patents.map (·.id)).Nodup) (same : patents.Perm others)
    (id : String) : patent? patents id = patent? others id := by
  have othersDistinct : (others.map (·.id)).Nodup := (same.map (·.id)).nodup_iff.1 distinct
  apply Option.ext
  intro patent
  rw [patent?_eq_some_iff distinct, patent?_eq_some_iff othersDistinct, same.mem_iff]

theorem material_eq_of_perm (distinct : (patents.map (·.id)).Nodup) (same : patents.Perm others)
    (assessments : List Assessment) :
    material patents assessments = material others assessments := by
  unfold material
  simp only [patent?_eq_of_perm distinct same]

theorem compute_eq_of_perm (distinct : (patents.map (·.id)).Nodup) (same : patents.Perm others)
    (elements : List NovelElement) (assessments : List Assessment) :
    compute elements patents assessments = compute elements others assessments := by
  have cpcSubclasses :
      (patents.flatMap (·.cpcSubclasses)).Perm (others.flatMap (·.cpcSubclasses)) :=
    same.flatMap_right _
  unfold compute
  rw [material_eq_of_perm distinct same, Tally.top_ofList_eq_of_perm mostRows cpcSubclasses,
    same.length_eq]

/-! ## Rearranged assessments -/

theorem perm_material (patents : List PatentRecord) (same : assessments.Perm rated) :
    (material patents assessments).Perm (material patents rated) :=
  (same.filter _).filterMap _

/-- The statistics have the same numbers and tables. -/
structure Agrees (a b : Statistics) : Prop where
  assignees : a.assigneeFrequency = b.assigneeFrequency
  cpcSubclasses : a.cpcHistogram = b.cpcHistogram
  elements : a.elementCoverage = b.elementCoverage
  high : a.highCount = b.highCount
  medium : a.mediumCount = b.mediumCount
  retrieved : a.totalRetrieved = b.totalRetrieved
  assessed : a.totalAssessed = b.totalAssessed
  assignee : ∀ name, a.assigneeCount name = b.assigneeCount name

theorem count_coverage_eq_of_perm {members rearranged : List (PatentRecord × Assessment)}
    (same : members.Perm rearranged) (relevance : Relevance) (id : String) :
    (coverage relevance members).count id = (coverage relevance rearranged).count id := by
  rw [coverage, coverage, Tally.count_ofList, Tally.count_ofList]
  exact ((same.filter _).flatMap_right _).count_eq id

theorem agrees_compute_of_perm_assessments (elements : List NovelElement)
    (patents : List PatentRecord) (same : assessments.Perm rated) :
    (compute elements patents assessments).Agrees (compute elements patents rated) := by
  have members : (material patents assessments).Perm (material patents rated) :=
    perm_material patents same
  have names := members.filterMap fun m => assigneeName? m.1
  refine ⟨Tally.top_ofList_eq_of_perm mostRows names, rfl, ?_, members.countP_eq _,
    members.countP_eq _, rfl, same.length_eq, ?_⟩
  · apply List.map_congr_left
    intro element _
    rw [count_coverage_eq_of_perm members, count_coverage_eq_of_perm members]
  · intro name
    rw [assigneeCount_eq_sum, assigneeCount_eq_sum]
    show Tally.sum _ (.ofList _) = Tally.sum _ (.ofList _)
    rw [Tally.sum_ofList, Tally.sum_ofList, names.countP_eq]

/-- **Rearranged data.** The numbers and the tables of the statistics depend neither on the order of
the patents, which have distinct identifiers, nor on that of the assessments; and nothing of the
statistics depends on the order of the patents. -/
theorem agrees_compute_of_perm (distinct : (patents.map (·.id)).Nodup)
    (samePatents : patents.Perm others) (sameAssessments : assessments.Perm rated) :
    (compute elements patents assessments).Agrees (compute elements others rated) ∧
      compute elements patents assessments = compute elements others assessments := by
  have same := compute_eq_of_perm distinct samePatents elements assessments
  refine ⟨?_, same⟩
  rw [same]
  exact agrees_compute_of_perm_assessments elements others sameAssessments

def swappedRatings : List Assessment :=
  [mixedRatings[1], mixedRatings[0]] ++ mixedRatings.drop 2

/-- Of two entries of one relevance and one grant date, the one assessed first is listed first. -/
theorem topPriorArt_mixed :
    (compute mixedElements mixedPatents mixedRatings).topPriorArt.map (·.patentId) =
        ["P3", "P1", "P2"] ∧
      (compute mixedElements mixedPatents swappedRatings).topPriorArt.map (·.patentId) =
        ["P1", "P3", "P2"] := by
  rw [topPriorArt_eq_take (by decide +kernel), topPriorArt_eq_take (by decide +kernel)]
  decide +kernel

theorem agrees_compute_of_perm_mixed : (mixedPatents.map (·.id)).Nodup ∧
    mixedPatents.Perm mixedPatents.reverse ∧ mixedPatents ≠ mixedPatents.reverse ∧
    mixedRatings.Perm swappedRatings ∧ mixedRatings ≠ swappedRatings ∧
    (compute mixedElements mixedPatents mixedRatings).Agrees
      (compute mixedElements mixedPatents.reverse swappedRatings) ∧
    compute mixedElements mixedPatents mixedRatings =
      compute mixedElements mixedPatents.reverse mixedRatings ∧
    (compute mixedElements mixedPatents mixedRatings).topPriorArt ≠
      (compute mixedElements mixedPatents swappedRatings).topPriorArt := by
  have distinct : (mixedPatents.map (·.id)).Nodup := by decide
  have samePatents : mixedPatents.Perm mixedPatents.reverse := (List.reverse_perm _).symm
  have sameRatings : mixedRatings.Perm swappedRatings := .swap ..
  obtain ⟨agrees, same⟩ := @agrees_compute_of_perm mixedElements _ _ _ _ distinct samePatents
    sameRatings
  have listed : (compute mixedElements mixedPatents mixedRatings).topPriorArt ≠
      (compute mixedElements mixedPatents swappedRatings).topPriorArt := by
    intro alike
    obtain ⟨before, after⟩ := topPriorArt_mixed
    rw [← alike, before] at after
    exact absurd after (by decide)
  exact ⟨distinct, samePatents, by decide, sameRatings, by decide, agrees, same, listed⟩

end Statistics

end PriorArt
