import PriorArt.Proofs.Replies

/-!
# The assessments that a search gets

1. A sanitized assessment is sound, whatever the model said (`Assessment.isSound_sanitize`).
2. A batch gets one assessment for each member, in their order (`Assess.patentIds_assign`), and
   so do all batches together (`Assess.patentIds_of_assessBatches`).
3. What is reported of them concerns distinct patents of the search and has some relevance
   (`Assess.isSound_of_run`).
-/

namespace PriorArt

namespace Assessment

/-- The confidence lies between zero and one, and the covered elements are known ones, each
once. -/
structure IsSound (known : List String) (assessment : Assessment) : Prop where
  confidence : assessment.confidence.inUnitInterval = true
  distinct : assessment.covered.Nodup
  covered : ∀ id ∈ assessment.covered, id ∈ known

theorem cover_eq (known kept : List String) (raw : String) :
    cover known kept raw = kept ∨
      ∃ id ∈ known, id ∉ kept ∧ cover known kept raw = kept ++ [id] := by
  unfold cover
  dsimp only
  split
  case isTrue new =>
    obtain ⟨inKnown, notKept⟩ := Bool.and_eq_true_iff.1 new
    exact .inr ⟨_, by simpa using inKnown, by simpa using notKept, rfl⟩
  case isFalse => exact .inl rfl

theorem foldl_cover {known : List String} (raws : List String) :
    ∀ {kept : List String}, kept.Nodup → (∀ id ∈ kept, id ∈ known) →
      (raws.foldl (cover known) kept).Nodup ∧
        ∀ id ∈ raws.foldl (cover known) kept, id ∈ known := by
  induction raws with
  | nil => intro kept distinct inKnown; exact ⟨distinct, inKnown⟩
  | cons raw rest ih =>
    intro kept distinct inKnown
    rcases cover_eq known kept raw with same | ⟨id, isKnown, new, added⟩
    · rw [List.foldl_cons, same]
      exact ih distinct inKnown
    · rw [List.foldl_cons, added]
      refine ih ?_ ?_
      · exact List.nodup_append.2 ⟨distinct, by simp, fun first inKept second isId same =>
          new (List.mem_singleton.1 isId ▸ same ▸ inKept)⟩
      · simpa [or_imp, forall_and] using ⟨inKnown, isKnown⟩

theorem isSound_sanitize (known : List String) (assessment : Assessment) :
    (assessment.sanitize known).IsSound known := by
  obtain ⟨distinct, covered⟩ :=
    @foldl_cover known assessment.covered [] List.nodup_nil (by simp)
  exact ⟨Binary64.inUnitInterval_clampToUnit _, distinct, covered⟩

theorem isSound_fallback (known : List String) (id : String) : (fallback id).IsSound known :=
  ⟨Binary64.inUnitInterval_zero, List.nodup_nil, by simp [fallback]⟩

end Assessment

/-- The assessments concern distinct ones of the patents, all of some relevance, and each is
sound. -/
structure AssessmentOutcome.IsSound (outcome : AssessmentOutcome) (document : StrategyDocument)
    (patents : List PatentRecord) : Prop where
  distinct : (outcome.assessments.map (·.patentId)).Nodup
  retrieved : ∀ assessment ∈ outcome.assessments, assessment.patentId ∈ patents.map (·.id)
  relevant : ∀ assessment ∈ outcome.assessments, assessment.relevance ≠ .none
  sound : ∀ assessment ∈ outcome.assessments, assessment.IsSound document.elementIds

namespace Assess

variable {known members : List String}

/-! ## One batch -/

/-- An accepted assessment is sound, and kept under the identifier of its patent, which is a member
of the batch. -/
theorem mem_accepted {entries : List Assessment} {id : String} {assessment : Assessment}
    (h : (id, assessment) ∈ accepted known members entries) :
    id ∈ members ∧ assessment.patentId = id ∧ assessment.IsSound known := by
  obtain ⟨raw, inBatch, form⟩ := List.mem_map.1 (Keyed.mem_of_mem_ofList h)
  cases form
  obtain ⟨-, isMember⟩ := List.mem_filter.1 inBatch
  exact ⟨by simpa using isMember, rfl, raw.isSound_sanitize known⟩

/-- An assigned assessment is an accepted one or a stand-in. -/
theorem mem_assign {accepted : List (String × Assessment)} {assessment : Assessment}
    (h : assessment ∈ (assign accepted members).1) :
    (∃ id, (id, assessment) ∈ accepted) ∨ ∃ id ∈ members, assessment = .fallback id := by
  fun_induction assign accepted members with
  | case1 => cases h
  | case2 accepted id rest first found others fallbacks assigned ih =>
    rcases List.mem_cons.1 h with rfl | inOthers
    · exact .inl ⟨id, Keyed.mem_of_lookup found⟩
    · rw [assigned] at ih
      rcases ih inOthers with ⟨other, kept⟩ | ⟨other, inRest, isFallback⟩
      · exact .inl ⟨other, (List.mem_filter.1 kept).1⟩
      · exact .inr ⟨other, List.mem_cons_of_mem _ inRest, isFallback⟩
  | case3 accepted id rest absent others fallbacks assigned ih =>
    rcases List.mem_cons.1 h with rfl | inOthers
    · exact .inr ⟨id, List.mem_cons_self, rfl⟩
    · rw [assigned] at ih
      rcases ih inOthers with kept | ⟨other, inRest, isFallback⟩
      · exact .inl kept
      · exact .inr ⟨other, List.mem_cons_of_mem _ inRest, isFallback⟩

/-- The members of a batch get one assessment each, in their order. -/
theorem patentIds_assign {accepted : List (String × Assessment)}
    (own : ∀ entry ∈ accepted, entry.2.patentId = entry.1) :
    (assign accepted members).1.map (·.patentId) = members := by
  fun_induction assign accepted members with
  | case1 => rfl
  | case2 accepted id rest first found others fallbacks assigned ih =>
    rw [assigned] at ih
    rw [List.map_cons, own _ (Keyed.mem_of_lookup found),
      ih fun entry kept => own entry (List.mem_filter.1 kept).1]
  | case3 accepted id rest absent others fallbacks assigned ih =>
    rw [assigned] at ih
    rw [List.map_cons, ih own]
    rfl

theorem patentIds_of_attempt {base : Nat} {prompt : String}
    {read : String → Option (List Assessment)} {number : Nat} {feedback : Option String}
    {counts : Counts} {left : Nat} {reasoner : Reasoner} {assigned : List Assessment}
    (ok : (attempt base known members prompt read number feedback counts left reasoner).1 =
      .ok assigned) :
    assigned.map (·.patentId) = members ∧ ∀ assessment ∈ assigned, assessment.IsSound known := by
  obtain ⟨reply, entries, -, rfl⟩ := assigned_of_attempt ok
  refine ⟨patentIds_assign fun entry kept => (mem_accepted kept).2.1, fun assessment member => ?_⟩
  rcases mem_assign member with ⟨id, kept⟩ | ⟨id, -, rfl⟩
  · exact (mem_accepted kept).2.2
  · exact Assessment.isSound_fallback known id

/-! ## All batches -/

theorem patentIds_of_assessBatches {document : StrategyDocument} {settings : AssessmentSettings}
    {base begun : Nat} {counts : Counts} {batches : List (List PatentRecord)}
    {reasoner : Reasoner} {assessments : List Assessment}
    (ok : (assessBatches document settings base begun counts batches reasoner).1 =
      .ok assessments) :
    assessments.map (·.patentId) = batches.flatten.map (·.id) ∧
      ∀ assessment ∈ assessments, assessment.IsSound document.elementIds := by
  fun_induction assessBatches document settings base begun counts batches reasoner
    generalizing assessments with
  | case1 => cases ok; exact ⟨rfl, by simp⟩
  | case2 => cases ok
  | case3 => cases ok
  | case4 _ _ batch rest _ assigned _ _ ofBatch others _ _ _ ofRest ih =>
    cases ok
    obtain ⟨ids, sound⟩ := patentIds_of_attempt (congrArg Prod.fst ofBatch)
    obtain ⟨otherIds, othersSound⟩ := ih (congrArg Prod.fst ofRest)
    refine ⟨by rw [List.map_append, ids, otherIds, List.flatten_cons, List.map_append], ?_⟩
    exact List.forall_mem_append.2 ⟨sound, othersSound⟩

/-! ## The outcome -/

theorem candidates_of_patents {patents : List PatentRecord} (distinct : (patents.map (·.id)).Nodup)
    (most : Nat) :
    let candidates :=
      (PatentRecord.sortForAssessment (patents.filter (·.hasAbstract))).take most
    (candidates.map (·.id)).Nodup ∧ ∀ patent ∈ candidates, patent ∈ patents := by
  intro candidates
  have withAbstract : ((patents.filter (·.hasAbstract)).map (·.id)).Nodup :=
    distinct.sublist (List.filter_sublist.map _)
  have sorted : ((PatentRecord.sortForAssessment (patents.filter (·.hasAbstract))).map
      (·.id)).Nodup :=
    ((perm_sortBy _ _).map _).nodup_iff.2 withAbstract
  refine ⟨sorted.sublist ((List.take_sublist ..).map _), fun patent member => ?_⟩
  exact (List.mem_filter.1 (mem_sortBy.1 (List.mem_of_mem_take member))).1

theorem isSound_of_run {settings : AssessmentSettings} {base : Nat} {document : StrategyDocument}
    {patents : List PatentRecord} {reasoner : Reasoner} {outcome : AssessmentOutcome}
    (distinct : (patents.map (·.id)).Nodup)
    (ok : (run settings base document patents reasoner).1.output = .ok outcome) :
    outcome.IsSound document patents := by
  unfold run at ok
  dsimp only at ok
  split at ok
  case h_1 => cases ok
  case h_2 assessments begun counts after assessed =>
    cases ok
    obtain ⟨ids, sound⟩ := patentIds_of_assessBatches (congrArg Prod.fst assessed)
    obtain ⟨once, ofSearch⟩ := candidates_of_patents distinct settings.maxAssessed
    rw [flatten_chunks] at ids
    have kept {grantDate : String → String} {assessment : Assessment}
        (member : assessment ∈ Assessment.sortForOutput grantDate
          (assessments.filter (·.relevance ≠ .none))) :
        assessment ∈ assessments ∧ assessment.relevance ≠ .none := by
      simpa using mem_sortBy.1 member
    exact
      { distinct := by
          refine ((perm_sortBy _ _).map _).nodup_iff.2 ?_
          exact (ids ▸ once).sublist (List.filter_sublist.map _)
        retrieved := by
          intro assessment member
          have isCandidate : assessment.patentId ∈ assessments.map (·.patentId) :=
            List.mem_map_of_mem (kept member).1
          rw [ids] at isCandidate
          obtain ⟨patent, inCandidates, same⟩ := List.mem_map.1 isCandidate
          exact same ▸ List.mem_map_of_mem (ofSearch patent inCandidates)
        relevant := fun assessment member => (kept member).2
        sound := fun assessment member => sound assessment (kept member).1 }

end Assess

end PriorArt
