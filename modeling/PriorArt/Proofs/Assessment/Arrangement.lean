import PriorArt.Proofs.Assessment.Conservation

/-!
# An assessment does not depend on the order of the patents

1. `PatentRecord.sortForAssessment_eq_of_perm`: patents with distinct identifiers are put in one
   order, however they come. Patents of one strategy count and one day are no exception, since
   the identifier decides between them.
2. `Assess.run_congr`: of the patents an assessment takes that order and their number, and nothing
   else.
3. `Assess.run_eq_of_perm`: two assessments of rearranged patents make the same calls at the same
   times, and bring the same output, metrics and partial output.
-/

namespace PriorArt

namespace PatentRecord

/-- Patents that compare equal have one identifier. -/
theorem id_eq_of_forAssessment {a b : PatentRecord} (equal : forAssessment a b = .eq) :
    a.id = b.id := by
  unfold forAssessment byGrantDate compareLex at equal
  obtain ⟨-, equal⟩ := Ordering.then_eq_eq.1 equal
  obtain ⟨-, equal⟩ := Ordering.then_eq_eq.1 equal
  exact Std.compare_eq_iff_eq.1 equal

/-- Patents with distinct identifiers are put in one order, however they come. -/
theorem sortForAssessment_eq_of_perm {patents others : List PatentRecord}
    (same : patents.Perm others) (distinct : (patents.map (·.id)).Nodup) :
    sortForAssessment patents = sortForAssessment others :=
  sortBy_eq_of_perm same fun _ inPatents _ alsoInPatents equal =>
    List.inj_on_of_nodup_map distinct inPatents alsoInPatents (id_eq_of_forAssessment equal)

end PatentRecord

namespace Assess

variable {settings : AssessmentSettings} {base : Nat} {document : StrategyDocument}
  {patents others : List PatentRecord} {reasoner : Reasoner}

/-- An assessment depends on how many patents there are, and on the order in which those with an
abstract are put. -/
theorem run_congr (length : patents.length = others.length)
    (sorted : PatentRecord.sortForAssessment (patents.filter (·.hasAbstract)) =
      PatentRecord.sortForAssessment (others.filter (·.hasAbstract))) :
    run settings base document patents reasoner = run settings base document others reasoner := by
  have withAbstract :
      (patents.filter (·.hasAbstract)).length = (others.filter (·.hasAbstract)).length :=
    calc (patents.filter (·.hasAbstract)).length
        = (PatentRecord.sortForAssessment (patents.filter (·.hasAbstract))).length :=
          (length_sortBy ..).symm
      _ = (PatentRecord.sortForAssessment (others.filter (·.hasAbstract))).length := by rw [sorted]
      _ = (others.filter (·.hasAbstract)).length := length_sortBy ..
  unfold run
  dsimp only
  rw [sorted, length, withAbstract]

/-- **Rearranged patents.** The order in which patents with distinct identifiers are given to an
assessment makes no difference to what is asked and when, nor to what comes of it. -/
theorem run_eq_of_perm (same : patents.Perm others) (distinct : (patents.map (·.id)).Nodup) :
    run settings base document patents reasoner = run settings base document others reasoner := by
  have kept : (patents.filter (·.hasAbstract)).Perm (others.filter (·.hasAbstract)) :=
    same.filter _
  have keptDistinct : ((patents.filter (·.hasAbstract)).map (·.id)).Nodup :=
    distinct.sublist (List.filter_sublist.map _)
  exact run_congr same.length_eq (PatentRecord.sortForAssessment_eq_of_perm kept keptDistinct)

/-! ### Patents that change places -/

def patchSettings : AssessmentSettings :=
  { maxAssessed := 2
    batchSize := 0
    maxAttempts := 2 }

/-- The second reply has the one assessment that is asked for, the others have none. -/
def patchReasoner : Reasoner :=
  { clock := .start
    calls := []
    answer
      | 1 => ⟨0, false,
          .ok "[[\x7b\"patent_id\":\"P3\",\"relevance\":\"low\"\x7d]]"⟩
      | _ => ⟨0, false, .ok "[]"⟩ }

theorem run_patch :
    (run patchSettings 0 patchDocument patchPatents patchReasoner).1.output.toOption.map
        (fun outcome => (outcome.assessments.map (·.patentId), outcome.fallbacks)) =
      some (["P3"], 1) := by
  rw [run, sortForAssessment_patch]
  decide +kernel

/-- Two of the patents differ in their identifiers only, and change places. -/
theorem run_eq_of_perm_patch :
    patchPatents.Perm patchPatents.reverse ∧ patchPatents ≠ patchPatents.reverse ∧
      (patchPatents.map (·.id)).Nodup ∧
      run patchSettings 0 patchDocument patchPatents patchReasoner =
        run patchSettings 0 patchDocument patchPatents.reverse patchReasoner ∧
      (run patchSettings 0 patchDocument patchPatents.reverse patchReasoner).1.output.toOption.map
        (fun outcome => (outcome.assessments.map (·.patentId), outcome.fallbacks)) =
          some (["P3"], 1) := by
  have same : patchPatents.Perm patchPatents.reverse := (List.reverse_perm _).symm
  have distinct : (patchPatents.map (·.id)).Nodup := by decide
  have alike : run patchSettings 0 patchDocument patchPatents patchReasoner =
      run patchSettings 0 patchDocument patchPatents.reverse patchReasoner :=
    run_eq_of_perm same distinct
  exact ⟨same, by decide, distinct, alike, alike ▸ run_patch⟩

end Assess

end PriorArt
