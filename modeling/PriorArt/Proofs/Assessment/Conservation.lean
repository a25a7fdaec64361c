import Mathlib.Algebra.Order.Floor.Div
import PriorArt.Proofs.Assessment.Rounds
import PriorArt.Proofs.Search.Outcome

/-!
# No patent is lost or counted twice in an assessment

1. `PatentRecord.Leads` and `Assessment.Leads`: the orders in which patents are assessed and
   assessments are reported, written out.
2. `Assess.length_chunks`: how many batches there are.
3. `Assess.fallbacks_of_assessBatches`: the stand-ins are among the assessments without relevance.
4. `AssessmentOutcome.Conserves`: how the numbers, the calls and the assessments of an outcome
   account for the patents of the search. It holds of every outcome (`Assess.conserves_run`).
-/

namespace PriorArt

/-! ## The orders -/

/-- More strategies found the patent, or as many and it precedes the other one. -/
def PatentRecord.Leads (a b : PatentRecord) : Prop :=
  b.strategyCount < a.strategyCount ∨ a.strategyCount = b.strategyCount ∧ a.Precedes b

/-- The assessment is the more relevant, or as relevant and covers more elements, or as many and the
patent was granted later, or on the same day and has the smaller identifier. -/
def Assessment.Leads (grantDate : String → String) (a b : Assessment) : Prop :=
  a.relevance.rank < b.relevance.rank ∨ a.relevance.rank = b.relevance.rank ∧
    (b.covered.length < a.covered.length ∨ a.covered.length = b.covered.length ∧
      (grantDate b.patentId < grantDate a.patentId ∨
        grantDate a.patentId = grantDate b.patentId ∧ a.patentId < b.patentId))

theorem PatentRecord.pairwise_sortForAssessment {patents : List PatentRecord}
    (distinct : (patents.map (·.id)).Nodup) :
    (sortForAssessment patents).Pairwise Leads := by
  have differ : (sortForAssessment patents).Pairwise fun a b => a.id ≠ b.id := by
    rw [← List.pairwise_map]
    exact ((perm_sortBy forAssessment patents).map (·.id)).nodup_iff.2 distinct
  refine ((pairwise_sortBy forAssessment patents).and differ).imp fun {a b} h => ?_
  obtain ⟨inOrder, differs⟩ := h
  unfold forAssessment compareLex at inOrder
  rcases Ordering.isLE_then_iff_or.1 inOrder with more | ⟨asMany, later⟩
  · exact .inl (compareOfLessAndEq_eq_lt.1 more)
  · exact .inr ⟨(Std.compare_eq_iff_eq.1 asMany).symm, precedes_of_isLE_byGrantDate later differs⟩

theorem Assessment.leads_of_isLE_inOutput {grantDate : String → String} {a b : Assessment}
    (h : (inOutput grantDate a b).isLE = true) (differs : a.patentId ≠ b.patentId) :
    a.Leads grantDate b := by
  unfold inOutput compareLex at h
  rcases Ordering.isLE_then_iff_or.1 h with relevant | ⟨asRelevant, h⟩
  · exact .inl (compareOfLessAndEq_eq_lt.1 relevant)
  refine .inr ⟨Std.compare_eq_iff_eq.1 asRelevant, ?_⟩
  rcases Ordering.isLE_then_iff_or.1 h with more | ⟨asMany, h⟩
  · exact .inl (compareOfLessAndEq_eq_lt.1 more)
  refine .inr ⟨(Std.compare_eq_iff_eq.1 asMany).symm, ?_⟩
  rcases Ordering.isLE_then_iff_or.1 h with later | ⟨sameDay, below⟩
  · exact .inl (compareOfLessAndEq_eq_lt.1 later)
  refine .inr ⟨(Std.compare_eq_iff_eq.1 sameDay).symm, ?_⟩
  rcases Ordering.isLE_iff_eq_lt_or_eq_eq.1 below with below | same
  · exact compareOfLessAndEq_eq_lt.1 below
  · exact absurd (Std.compare_eq_iff_eq.1 same) differs

theorem Assessment.pairwise_sortForOutput (grantDate : String → String)
    {assessments : List Assessment} (distinct : (assessments.map (·.patentId)).Nodup) :
    (sortForOutput grantDate assessments).Pairwise (Leads grantDate) := by
  have differ : (sortForOutput grantDate assessments).Pairwise
      fun a b => a.patentId ≠ b.patentId := by
    rw [← List.pairwise_map]
    exact ((perm_sortBy (inOutput grantDate) assessments).map (·.patentId)).nodup_iff.2 distinct
  exact ((pairwise_sortBy (inOutput grantDate) assessments).and differ).imp fun h =>
    leads_of_isLE_inOutput h.1 h.2

namespace Assess

theorem grantDate_of_mem {patents : List PatentRecord} (distinct : (patents.map (·.id)).Nodup)
    {patent : PatentRecord} (member : patent ∈ patents) :
    grantDate patents patent.id = patent.grantDate := by
  have others : ∀ {others : List PatentRecord} (date : String),
      patent.id ∉ others.map (·.id) →
        others.foldl (fun date other => if other.id = patent.id then other.grantDate else date)
          date = date := by
    intro others
    induction others with
    | nil => intro date _; rfl
    | cons other rest ih =>
      intro date absent
      rw [List.map_cons, List.mem_cons, not_or] at absent
      rw [List.foldl_cons, if_neg (Ne.symm absent.1), ih date absent.2]
  obtain ⟨before, after, rfl⟩ := List.append_of_mem member
  rw [List.map_append, List.map_cons, List.nodup_append] at distinct
  obtain ⟨-, rest, -⟩ := distinct
  rw [grantDate, List.foldl_append, List.foldl_cons, if_pos rfl]
  exact others _ (List.nodup_cons.1 rest).1

/-! ## The batches -/

/-- There are as many parts as it takes to hold the list. -/
theorem length_chunks {α : Type} (size : Nat) (items : List α) :
    (chunks size items).length = items.length ⌈/⌉ max size 1 := by
  have positive : 0 < max size 1 := Nat.lt_of_lt_of_le Nat.one_pos (Nat.le_max_right ..)
  rw [Nat.ceilDiv_eq_add_pred_div]
  fun_induction chunks size items with
  | case1 => rw [List.length_nil, List.length_nil, Nat.div_eq_of_lt (by omega)]
  | case2 item rest ih =>
    rw [List.length_cons, ih, List.length_drop, List.length_cons]
    -- the first part takes all that one more division by the size counts
    rcases Nat.lt_or_ge rest.length (max size 1) with few | many
    · rw [show rest.length - (size - 1) + max size 1 - 1 = max size 1 - 1 by omega,
        show rest.length + 1 + max size 1 - 1 = rest.length + max size 1 by omega,
        Nat.add_div_right _ positive, Nat.div_eq_of_lt few, Nat.div_eq_of_lt (by omega)]
    · rw [show rest.length - (size - 1) + max size 1 - 1 = rest.length by omega,
        show rest.length + 1 + max size 1 - 1 = rest.length + max size 1 by omega,
        Nat.add_div_right _ positive]

theorem chunks_zero {α : Type} (items : List α) : chunks 0 items = chunks 1 items := by
  fun_induction chunks 0 items with
  | case1 => rw [chunks]
  | case2 item rest ih => rw [chunks, ih]

/-- No part is larger than the size, which counts as one if it is zero. -/
theorem length_le_of_mem_chunks_max {α : Type} {size : Nat} {items part : List α}
    (member : part ∈ chunks size items) : part.length ≤ max size 1 := by
  cases size with
  | zero => exact length_le_of_mem_chunks Nat.one_pos items part (chunks_zero items ▸ member)
  | succ size =>
    exact (length_le_of_mem_chunks size.succ_pos items part member).trans (Nat.le_max_left ..)

/-- Of parts that make up a list without repetition, just one holds an item of it. -/
theorem existsUnique_part {α : Type} {parts : List (List α)} (distinct : parts.flatten.Nodup)
    {item : α} (member : item ∈ parts.flatten) :
    ∃! n : Nat, ∃ part, parts[n]? = some part ∧ item ∈ part := by
  obtain ⟨part, isPart, inPart⟩ := List.mem_flatten.1 member
  obtain ⟨n, found⟩ := List.mem_iff_getElem?.1 isPart
  refine ⟨n, ⟨part, found, inPart⟩, ?_⟩
  rintro m ⟨other, foundOther, inOther⟩
  have disjoint := List.pairwise_iff_getElem.1 (List.nodup_flatten.1 distinct).2
  obtain ⟨nInside, rfl⟩ := List.getElem?_eq_some_iff.1 found
  obtain ⟨mInside, rfl⟩ := List.getElem?_eq_some_iff.1 foundOther
  rcases Nat.lt_trichotomy m n with before | same | after
  · exact absurd inPart (disjoint m n mInside nInside before inOther)
  · exact same
  · exact absurd inOther (disjoint n m nInside mInside after inPart)

section Parts

variable {rounds : List Round} {candidates : List PatentRecord} {size : Nat}
  (partition : rounds.map (·.patents) = chunks size candidates)

include partition

theorem sizes_of_chunks {round : Round} (member : round ∈ rounds) :
    0 < round.patents.length ∧ round.patents.length ≤ max size 1 := by
  have isChunk : round.patents ∈ chunks size candidates :=
    partition ▸ List.mem_map_of_mem member
  refine ⟨List.length_pos_iff.2 ?_, length_le_of_mem_chunks_max isChunk⟩
  rintro empty
  exact nil_not_mem_chunks _ _ (empty ▸ isChunk)

theorem once_of_chunks (distinct : (candidates.map (·.id)).Nodup) {patent : PatentRecord}
    (member : patent ∈ candidates) :
    ∃! n : Nat, ∃ round, rounds[n]? = some round ∧ patent ∈ round.patents := by
  have whole : (rounds.map (·.patents)).flatten = candidates := by
    rw [partition, flatten_chunks]
  have single := existsUnique_part (whole.symm ▸ distinct.of_map _) (whole.symm ▸ member)
  simpa [List.getElem?_map] using single

end Parts

/-! ## The stand-ins -/

/-- The number of assessments without relevance. -/
def irrelevant (assessments : List Assessment) : Nat :=
  assessments.countP (·.relevance = .none)

theorem irrelevant_append (some others : List Assessment) :
    irrelevant (some ++ others) = irrelevant some + irrelevant others :=
  List.countP_append

theorem length_relevant_add (assessments : List Assessment) :
    (assessments.filter (·.relevance ≠ .none)).length + irrelevant assessments =
      assessments.length := by
  have split := assessments.length_eq_countP_add_countP fun a => a.relevance ≠ .none
  rw [List.countP_eq_length_filter] at split
  simpa [irrelevant] using split.symm

/-- Stand-ins have no relevance. -/
theorem fallbacks_le_assign (accepted : List (String × Assessment)) (members : List String) :
    (assign accepted members).2 ≤ irrelevant (assign accepted members).1 := by
  fun_induction assign accepted members with
  | case1 => exact Nat.le_refl 0
  | case2 accepted id rest first found others fallbacks assigned ih =>
    rw [assigned] at ih
    exact Nat.le_trans ih ((List.sublist_cons_self ..).countP_le)
  | case3 accepted id rest absent others fallbacks assigned ih =>
    rw [assigned] at ih
    rw [irrelevant, List.countP_cons_of_pos (by simp [Assessment.fallback])]
    exact Nat.succ_le_succ ih

theorem fallbacks_of_attempt {base : Nat} {known members : List String} {prompt : String}
    {read : String → Option (List Assessment)} {number : Nat} {feedback : Option String}
    {counts : Counts} {left : Nat} {reasoner : Reasoner} {assigned : List Assessment}
    (ok : (attempt base known members prompt read number feedback counts left reasoner).1 =
      .ok assigned) :
    (attempt base known members prompt read number feedback counts left reasoner).2.1.fallbacks ≤
      counts.fallbacks + irrelevant assigned := by
  fun_induction attempt base known members prompt read number feedback counts left reasoner with
  | case1 => cases ok
  | case2 _ _ _ _ _ _ _ _ _ _ _ _ _ ih => exact ih ok
  | case3 => cases ok
  | case4 => cases ok
  | case5 _ _ _ _ _ _ _ _ _ _ ih => exact ih ok
  | case6 => cases ok
  | case7 _ _ _ _ _ _ _ _ _ _ _ _ _ _ _ _ ih => exact ih ok
  | case8 _ _ _ _ _ _ _ _ _ entries _ _ _ accepted _ assigned fallbacks assigning =>
    cases ok
    have few := fallbacks_le_assign accepted members
    rw [assigning] at few
    exact Nat.add_le_add_left few _

/-- After all batches, the stand-ins are among the assessments without relevance, and all batches
were begun. -/
theorem fallbacks_of_assessBatches {document : StrategyDocument} {settings : AssessmentSettings}
    {base begun : Nat} {counts : Counts} {batches : List (List PatentRecord)}
    {reasoner : Reasoner} {assessments : List Assessment}
    (ok : (assessBatches document settings base begun counts batches reasoner).1 =
      .ok assessments) :
    let done := assessBatches document settings base begun counts batches reasoner
    done.2.1 = begun + batches.length ∧
      done.2.2.1.fallbacks ≤ counts.fallbacks + irrelevant assessments := by
  fun_induction assessBatches document settings base begun counts batches reasoner
    generalizing assessments with
  | case1 => cases ok; exact ⟨rfl, Nat.le_refl _⟩
  | case2 => cases ok
  | case3 => cases ok
  | case4 begun counts batch rest reasoner assigned _ heard ofBatch others _ _ _ ofRest ih =>
    cases ok
    have here := fallbacks_of_attempt (congrArg Prod.fst ofBatch)
    rw [ofBatch] at here
    obtain ⟨last, further⟩ := ih (congrArg Prod.fst ofRest)
    rw [ofRest] at last further
    refine ⟨by rw [List.length_cons]; dsimp only at last ⊢; omega, ?_⟩
    rw [irrelevant_append]
    dsimp only at here further ⊢
    omega

end Assess

/-! ## The outcome -/

/-- The patents that are assessed: of those with an abstract the first ones in strict order, as many
as are allowed. -/
def Assess.AreFirst (candidates : List PatentRecord) (most : Nat) (patents : List PatentRecord) :
    Prop :=
  ∃ ordered : List PatentRecord, ordered.Perm (patents.filter (·.hasAbstract)) ∧
    ordered.Pairwise PatentRecord.Leads ∧ candidates = ordered.take most

/-- The outcome of an assessment accounts for every patent of the search. -/
structure AssessmentOutcome.Conserves (outcome : AssessmentOutcome) (settings : AssessmentSettings)
    (document : StrategyDocument) (patents candidates : List PatentRecord)
    (rounds : List Assess.Round) : Prop where
  first : Assess.AreFirst candidates settings.maxAssessed patents
  abstractsMissing :
    outcome.abstractsMissing + (patents.filter (·.hasAbstract)).length = patents.length
  truncated : outcome.truncated = true ↔
    settings.maxAssessed < (patents.filter (·.hasAbstract)).length
  batches : outcome.batches = candidates.length ⌈/⌉ max settings.batchSize 1
  asked : rounds.length = outcome.batches
  sizes : ∀ round ∈ rounds, 0 < round.patents.length ∧
    round.patents.length ≤ max settings.batchSize 1
  partition : rounds.flatMap (·.patents) = candidates
  once : ∀ patent ∈ candidates, ∃! n : Nat,
    ∃ round, rounds[n]? = some round ∧ patent ∈ round.patents
  asks : ∀ round ∈ rounds, round.Asks document
  assessed : outcome.assessments.length + outcome.assessedNone = candidates.length
  fallbacks : outcome.fallbacks ≤ outcome.assessedNone
  dated : ∀ patent ∈ candidates, Assess.grantDate candidates patent.id = patent.grantDate
  inOrder : outcome.assessments.Pairwise (Assessment.Leads (Assess.grantDate candidates))
  distinct : (outcome.assessments.map (·.patentId)).Nodup
  retrieved : ∀ assessment ∈ outcome.assessments, assessment.patentId ∈ candidates.map (·.id)
  relevant : ∀ assessment ∈ outcome.assessments, assessment.relevance ≠ .none

theorem AssessmentOutcome.Conserves.listed {outcome : AssessmentOutcome}
    {settings : AssessmentSettings} {document : StrategyDocument}
    {patents candidates : List PatentRecord} {rounds : List Assess.Round}
    (conserves : outcome.Conserves settings document patents candidates rounds)
    {patent : PatentRecord} (member : patent ∈ candidates) :
    ∃ round ∈ rounds, ∃ call ∈ round.calls, ∃ position,
      Prompt.Lists call.question position patent := by
  rw [← conserves.partition] at member
  obtain ⟨round, isRound, inRound⟩ := List.mem_flatMap.1 member
  obtain ⟨position, found⟩ := List.mem_iff_getElem?.1 inRound
  have asks := conserves.asks round isRound
  obtain ⟨call, called⟩ := List.exists_mem_of_ne_nil _ asks.called
  exact ⟨round, isRound, call, called, position, asks.lists call called position patent found⟩

namespace Assess

/-- **No patent is lost.** Every outcome of the assessment of distinct patents accounts for them,
and for the calls that were made. -/
theorem conserves_run {settings : AssessmentSettings} {base : Nat} {document : StrategyDocument}
    {patents : List PatentRecord} {reasoner : Reasoner} {outcome : AssessmentOutcome}
    (distinct : (patents.map (·.id)).Nodup)
    (ok : (run settings base document patents reasoner).1.output = .ok outcome) :
    ∃ candidates rounds, outcome.Conserves settings document patents candidates rounds ∧
      (run settings base document patents reasoner).2.calls =
        reasoner.calls ++ rounds.flatMap (·.calls) := by
  let withAbstract := patents.filter (·.hasAbstract)
  let candidates := (PatentRecord.sortForAssessment withAbstract).take settings.maxAssessed
  have distinctAbstracts : (withAbstract.map (·.id)).Nodup :=
    distinct.sublist (List.filter_sublist.map _)
  have once : (candidates.map (·.id)).Nodup :=
    (candidates_of_patents distinct settings.maxAssessed).1
  unfold run at ok ⊢
  dsimp only at ok ⊢
  split at ok
  case h_1 => cases ok
  case h_2 assessments begun counts after assessed =>
    cases ok
    obtain ⟨ids, -⟩ := patentIds_of_assessBatches (congrArg Prod.fst assessed)
    obtain ⟨allBegun, fallbacks⟩ := fallbacks_of_assessBatches (congrArg Prod.fst assessed)
    obtain ⟨rounds, partition, asks, made⟩ := rounds_of_assessBatches (congrArg Prod.fst assessed)
    rw [assessed] at allBegun fallbacks made
    rw [flatten_chunks] at ids
    have all := length_relevant_add assessments
    have none : assessments.length - (assessments.filter (·.relevance ≠ .none)).length =
        irrelevant assessments := by
      rw [← all, Nat.add_sub_cancel_left]
    have length : assessments.length = candidates.length := by
      rw [← List.length_map, ids, List.length_map]
    have keptOnce : ((assessments.filter (·.relevance ≠ .none)).map (·.patentId)).Nodup :=
      (ids ▸ once).sublist (List.filter_sublist.map _)
    rw [none]
    refine ⟨candidates, rounds, ?_, made⟩
    exact
      { first :=
        ⟨_, perm_sortBy _ _, PatentRecord.pairwise_sortForAssessment distinctAbstracts, rfl⟩
        abstractsMissing := Nat.sub_add_cancel (List.length_filter_le ..)
        truncated := decide_eq_true_iff
        batches := by
          rw [← length_chunks]
          exact allBegun.trans (Nat.zero_add _)
        asked := by
          rw [← List.length_map, partition]
          exact (allBegun.trans (Nat.zero_add _)).symm
        sizes := fun round member => sizes_of_chunks partition member
        partition := by rw [List.flatMap_def, partition, flatten_chunks]
        once := fun patent member => once_of_chunks partition once member
        asks
        assessed := by
          rw [← length, ← all]
          exact congrArg (· + irrelevant assessments) (length_sortBy ..)
        fallbacks := fallbacks.trans_eq (Nat.zero_add _)
        dated := fun patent member => grantDate_of_mem once member
        inOrder := Assessment.pairwise_sortForOutput _ keptOnce
        distinct := ((perm_sortBy _ _).map _).nodup_iff.2 keptOnce
        retrieved := by
          intro assessment member
          rw [← ids]
          exact List.mem_map_of_mem (List.mem_filter.1 (mem_sortBy.1 member)).1
        relevant := fun assessment member => by
          simpa using (List.mem_filter.1 (mem_sortBy.1 member)).2 }

/-! ### Four patents, of which three are assessed -/

def patchDocument : StrategyDocument :=
  { title := ""
    summary := "A patch."
    elements := [⟨"NE1", "Glue"⟩]
    domains := []
    strategies := []
    confidence := .zero
    confidenceReason := "" }

def patchPatent (id abstractText : String) (strategyCount : Nat) : PatentRecord :=
  ⟨id, "", abstractText, "", none, [], [], [], [], strategyCount⟩

def patchPatents : List PatentRecord :=
  [patchPatent "P1" " " 3, patchPatent "P2" "Glue." 1, patchPatent "P3" "Glue." 2,
    patchPatent "P4" "Glue." 1]

theorem sortForAssessment_patch :
    PatentRecord.sortForAssessment (patchPatents.filter (·.hasAbstract)) =
      [patchPatent "P3" "Glue." 2, patchPatent "P2" "Glue." 1, patchPatent "P4" "Glue." 1] := by
  have full : patchPatents.filter (·.hasAbstract) =
      [patchPatent "P2" "Glue." 1, patchPatent "P3" "Glue." 2, patchPatent "P4" "Glue." 1] := by
    decide +kernel
  rw [full]
  cbv

def pairedSettings : AssessmentSettings :=
  { maxAssessed := 3
    batchSize := 2
    maxAttempts := 2 }

/-- The first patent is of low relevance, nothing is said of the second in both replies for the
batch, and the third is of high relevance. -/
def pairedReasoner : Reasoner :=
  { clock := .start
    calls := []
    answer
      | 0 | 1 => ⟨0, false, .ok "[[\x7b\"patent_id\":\"P3\",\"relevance\":\"low\"\x7d]]"⟩
      | _ => ⟨0, false, .ok "[[\x7b\"patent_id\":\"P4\",\"relevance\":\"high\"\x7d]]"⟩ }

def pairedAssessment (id : String) (relevance : Relevance) : Assessment :=
  ⟨id, relevance, "", [], .zero⟩

theorem assessBatches_paired :
    let done := assessBatches patchDocument pairedSettings 0 0 .zero
      (chunks 2 [patchPatent "P3" "Glue." 2, patchPatent "P2" "Glue." 1, patchPatent "P4" "Glue." 1])
      pairedReasoner
    done.1.toOption = some [pairedAssessment "P3" .low, .fallback "P2",
        pairedAssessment "P4" .high] ∧
      done.2.1 = 2 ∧ done.2.2.1.fallbacks = 1 := by
  decide +kernel

theorem run_paired :
    (run pairedSettings 0 patchDocument patchPatents pairedReasoner).1.output.toOption.map
        (fun outcome => (outcome.assessments, outcome.batches, outcome.fallbacks)) =
      some ([pairedAssessment "P4" .high, pairedAssessment "P3" .low], 2, 1) := by
  have assessed := assessBatches_paired
  rw [run, sortForAssessment_patch]
  dsimp only [pairedSettings, List.take] at assessed ⊢
  generalize assessBatches .. = done at assessed ⊢
  obtain ⟨error | assessments, batches, counts, after⟩ := done
  · cases assessed.1
  · obtain ⟨ok, begun, fallbacks⟩ := assessed
    cases ok
    dsimp only [Except.toOption, Option.map_some] at begun fallbacks ⊢
    rw [begun, fallbacks]
    cbv

/-- Two of the patents are reported, the more relevant first, and one gets a stand-in. The
identifier of the first one reported is found in a question. -/
theorem conserves_run_patch : ∃ outcome candidates rounds,
    (patchPatents.map (·.id)).Nodup ∧
    (run pairedSettings 0 patchDocument patchPatents pairedReasoner).1.output = .ok outcome ∧
    outcome.assessments = [pairedAssessment "P4" .high, pairedAssessment "P3" .low] ∧
    outcome.batches = 2 ∧ outcome.fallbacks = 1 ∧
    outcome.Conserves pairedSettings patchDocument patchPatents candidates rounds ∧
    ∃ round ∈ rounds, ∃ call ∈ round.calls, ∃ before after,
      call.question = before ++ "\nPATENT_ID: P4\nTITLE: " ++ after := by
  have distinct : (patchPatents.map (·.id)).Nodup := by decide
  have found := run_paired
  cases ok : (run pairedSettings 0 patchDocument patchPatents pairedReasoner).1.output with
  | error error => simp [ok, Except.toOption] at found
  | ok outcome =>
    rw [ok] at found
    obtain ⟨candidates, rounds, conserves, -⟩ := conserves_run distinct ok
    obtain ⟨assessments, batches, fallbacks⟩ := by
      simpa only [Except.toOption, Option.map_some, Option.some.injEq, Prod.mk.injEq] using found
    refine ⟨outcome, candidates, rounds, distinct, rfl, assessments, batches, fallbacks, conserves,
      ?_⟩
    have reported : pairedAssessment "P4" .high ∈ outcome.assessments := by simp [assessments]
    obtain ⟨patent, member, id⟩ := List.mem_map.1 (conserves.retrieved _ reported)
    obtain ⟨round, isRound, call, called, position, before, after, listed⟩ :=
      conserves.listed member
    have line : "\nPATENT_ID: P4\nTITLE: " = "\nPATENT_ID: " ++ ("P4" ++ "\nTITLE: ") := by decide
    rw [id, pairedAssessment] at listed
    exact ⟨round, isRound, call, called, before ++ "INDEX: " ++ toString position, _, by
      simpa only [line, String.append_assoc] using listed⟩

end Assess

end PriorArt
