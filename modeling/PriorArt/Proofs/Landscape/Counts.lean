import Mathlib.Data.List.Nodup
import PriorArt.Proofs.Landscape.References

/-!
# What the statistics of a landscape count

1. `Statistics.counted`: the assessments that count are the material ones of retrieved patents. They
   are the members of the statistics, each with its own patent (`Statistics.map_snd_material`,
   `Statistics.mem_material_iff`).
2. `Tally.Ranks`: a frequency table, written out. The sorted tally of a list is one
   (`Tally.ranks_sortBy`).
3. `Statistics.IsCounted`: each number of the statistics as a count of assessments or of codes
   (`Statistics.isCounted_compute`). The number of patents of an assignee counts every spelling of
   its name, while the table has a row for each of them.
-/

namespace PriorArt

/-! ## Frequency tables -/

namespace Tally

/-- The row has the greater count, or the same count and the smaller text. -/
def Precedes (a b : String × Nat) : Prop :=
  b.2 < a.2 ∨ a.2 = b.2 ∧ a.1 < b.1

/-- The rows are the texts that are counted at all, each with its count, in their order. -/
structure Ranks (count : String → Nat) (rows : List (String × Nat)) : Prop where
  holds : ∀ key n, (key, n) ∈ rows ↔ 0 < n ∧ count key = n
  ordered : rows.Pairwise Precedes

theorem Precedes.asymm {a b : String × Nat} (h : Precedes a b) : ¬Precedes b a := by
  intro back
  rcases h with more | ⟨asMany, below⟩
  · rcases back with more | ⟨asMany, -⟩
    · omega
    · omega
  · rcases back with more | ⟨-, above⟩
    · omega
    · exact String.lt_asymm below above

theorem Ranks.unique {count : String → Nat} {rows others : List (String × Nat)}
    (h : Ranks count rows) (h' : Ranks count others) : rows = others := by
  refine eq_of_pairwise (fun _ _ => Precedes.asymm) h.ordered h'.ordered ?_
  rintro ⟨key, n⟩
  rw [h.holds, h'.holds]

theorem precedes_of_isLE_byFrequency {a b : String × Nat} (h : (byFrequency a b).isLE = true)
    (differs : a.1 ≠ b.1) : Precedes a b := by
  unfold byFrequency compareLex at h
  rcases Ordering.isLE_then_iff_or.1 h with more | ⟨asMany, below⟩
  · exact .inl (compareOfLessAndEq_eq_lt.1 more)
  refine .inr ⟨(Std.compare_eq_iff_eq.1 asMany).symm, ?_⟩
  rcases Ordering.isLE_iff_eq_lt_or_eq_eq.1 below with below | same
  · exact compareOfLessAndEq_eq_lt.1 below
  · exact absurd (Std.compare_eq_iff_eq.1 same) differs

theorem ranks_sortBy (keys : List String) :
    Ranks (fun key => keys.count key) (sortBy byFrequency (ofList keys)) where
  holds key n := by
    rw [mem_sortBy]
    exact mem_ofList_iff
  ordered := by
    have differ : (sortBy byFrequency (ofList keys)).Pairwise fun a b => a.1 ≠ b.1 := by
      rw [← List.pairwise_map]
      exact ((perm_sortBy byFrequency (ofList keys)).map (·.1)).nodup_iff.2 (nodup_keys_ofList keys)
    refine ((pairwise_sortBy byFrequency (ofList keys)).and differ).imp ?_
    intro a b h
    exact precedes_of_isLE_byFrequency h.1 h.2

end Tally

namespace Statistics

/-! ## The patent of an assessment -/

theorem patent?_eq (patents : List PatentRecord) (id : String) :
    patent? patents id = patents.reverse.find? fun patent => patent.id = id := by
  have fold : ∀ (patents : List PatentRecord) (found : Option PatentRecord),
      patents.foldl (fun found patent => if patent.id = id then some patent else found) found =
        (patents.reverse.find? fun patent => patent.id = id).or found := by
    intro patents
    induction patents with
    | nil => exact fun _ => rfl
    | cons patent rest ih =>
      intro found
      rw [List.foldl_cons, ih, List.reverse_cons, List.find?_append]
      by_cases same : patent.id = id
      · simp [same]
      · simp [same]
  rw [patent?, fold, Option.or_none]

theorem patent?_eq_some_iff {patents : List PatentRecord} (distinct : (patents.map (·.id)).Nodup)
    {id : String} {patent : PatentRecord} :
    patent? patents id = some patent ↔ patent ∈ patents ∧ patent.id = id := by
  rw [patent?_eq]
  constructor
  · intro found
    exact ⟨List.mem_reverse.1 (List.mem_of_find?_eq_some found),
      by simpa using List.find?_some found⟩
  · rintro ⟨member, rfl⟩
    cases found : patents.reverse.find? fun other => other.id = patent.id with
    | none =>
      have absent := List.find?_eq_none.1 found patent (List.mem_reverse.2 member)
      simp at absent
    | some other =>
      have sameId : other.id = patent.id := by simpa using List.find?_some found
      have alsoMember := List.mem_reverse.1 (List.mem_of_find?_eq_some found)
      rw [List.inj_on_of_nodup_map distinct alsoMember member sameId]

theorem isSome_patent?_iff {patents : List PatentRecord} {id : String} :
    (patent? patents id).isSome = true ↔ ∃ patent ∈ patents, patent.id = id := by
  rw [patent?_eq, List.find?_isSome]
  simp

/-- The material assessments whose patent is among the patents. -/
def counted (patents : List PatentRecord) (assessments : List Assessment) : List Assessment :=
  assessments.filter fun assessment =>
    (assessment.relevance = .high ∨ assessment.relevance = .medium) ∧
      ∃ patent ∈ patents, patent.id = assessment.patentId

/-- The patent of an assessment has a first assignee that is not blank, of which `p` holds. -/
def IsHeld (patents : List PatentRecord) (p : String → Prop) (assessment : Assessment) : Prop :=
  ∃ patent ∈ patents, patent.id = assessment.patentId ∧
    ∃ first ∈ patent.assignees.head?, Text.isBlankText first = false ∧ p first

instance (patents : List PatentRecord) (p : String → Prop) [DecidablePred p] :
    DecidablePred (IsHeld patents p) :=
  fun _ => inferInstanceAs (Decidable (∃ _ ∈ patents, _))

section Material

variable {patents : List PatentRecord} {assessments : List Assessment}

/-- The members of the statistics are the material assessments of retrieved patents, in their
order. -/
theorem map_snd_material :
    (material patents assessments).map (·.2) = counted patents assessments := by
  have kept (assessment : Assessment) :
      ((patent? patents assessment.patentId).map fun patent => (patent, assessment)).map (·.2) =
        Option.guard (fun assessment => (patent? patents assessment.patentId).isSome)
          assessment := by
    cases found : patent? patents assessment.patentId with
    | none => simp [Option.guard, found]
    | some patent => simp [Option.guard, found]
  unfold material counted
  rw [List.map_filterMap, funext kept, List.filterMap_eq_filter, List.filter_filter]
  apply List.filter_congr
  intro assessment _
  rw [Bool.eq_iff_iff, Bool.and_eq_true, isSome_patent?_iff, Relevance.isMaterial_iff,
    decide_eq_true_iff, and_comm]

theorem mem_material_iff (distinct : (patents.map (·.id)).Nodup) {patent : PatentRecord}
    {assessment : Assessment} :
    (patent, assessment) ∈ material patents assessments ↔
      assessment ∈ assessments ∧ (assessment.relevance = .high ∨ assessment.relevance = .medium) ∧
        patent ∈ patents ∧ patent.id = assessment.patentId := by
  unfold material
  rw [List.mem_filterMap]
  constructor
  · rintro ⟨rated, isRated, form⟩
    obtain ⟨found, isFound, same⟩ := Option.map_eq_some_iff.1 form
    cases same
    obtain ⟨isRated, isMaterial⟩ := List.mem_filter.1 isRated
    exact ⟨isRated, Relevance.isMaterial_iff.1 isMaterial, (patent?_eq_some_iff distinct).1 isFound⟩
  · rintro ⟨isRated, isMaterial, own⟩
    refine ⟨assessment, List.mem_filter.2 ⟨isRated, Relevance.isMaterial_iff.2 isMaterial⟩, ?_⟩
    rw [(patent?_eq_some_iff distinct).2 own, Option.map_some]

theorem assigneeName?_eq_some_iff {patent : PatentRecord} {name : String} :
    assigneeName? patent = some name ↔
      ∃ first ∈ patent.assignees.head?, Text.isBlankText first = false ∧
        Text.collapse first = name := by
  unfold assigneeName?
  cases patent.assignees with
  | nil => simp
  | cons first rest =>
    by_cases blank : Text.isBlankText first = true
    · simp [blank, Text.collapse_eq_empty_iff]
    · simp [blank, Text.collapse_eq_empty_iff]

/-- Of the names under which the members count, as many satisfy `q` as there are members whose first
assignee satisfies it when its blank space is collapsed. -/
theorem countP_names (distinct : (patents.map (·.id)).Nodup) (q : String → Bool) :
    ((material patents assessments).filterMap fun m => assigneeName? m.1).countP q =
      (counted patents assessments).countP
        (IsHeld patents fun first => q (Text.collapse first) = true) := by
  rw [List.countP_filterMap, ← map_snd_material, List.countP_map]
  apply List.countP_congr
  intro m member
  obtain ⟨-, -, isPatent, own⟩ := (mem_material_iff distinct).1 member
  rw [Function.comp_apply, decide_eq_true_iff]
  constructor
  · intro satisfied
    cases named : assigneeName? m.1 with
    | none =>
      rw [named] at satisfied
      cases satisfied
    | some name =>
      rw [named] at satisfied
      obtain ⟨first, isFirst, written, rfl⟩ := assigneeName?_eq_some_iff.1 named
      exact ⟨m.1, isPatent, own, first, isFirst, written, satisfied⟩
  · rintro ⟨patent, alsoPatent, sameId, first, isFirst, written, satisfied⟩
    -- a patent with the same identifier is the same patent
    have same : patent = m.1 :=
      List.inj_on_of_nodup_map distinct alsoPatent isPatent (sameId.trans own.symm)
    subst same
    have named := assigneeName?_eq_some_iff.2 ⟨first, isFirst, written, rfl⟩
    rw [named]
    exact satisfied

end Material

/-! ## The counts -/

theorem assigneeCount_eq_sum (stats : Statistics) (name : String) :
    stats.assigneeCount name = stats.assigneeTally.sum fun key => nameKey key = nameKey name := by
  have fold : ∀ (tally : Tally) (start : Nat),
      tally.foldl (fun sum row => if nameKey row.1 = nameKey name then sum + row.2 else sum) start =
        start + tally.sum fun key => nameKey key = nameKey name := by
    intro tally
    induction tally with
    | nil => exact fun _ => rfl
    | cons row rest ih =>
      intro start
      rw [List.foldl_cons, ih, Tally.sum]
      by_cases same : nameKey row.1 = nameKey name
      · simp only [same, if_true, decide_true]
        omega
      · simp [same]
  rw [assigneeCount, fold, Nat.zero_add]

theorem nameKey_collapse (name : String) : nameKey (Text.collapse name) = nameKey name := by
  unfold nameKey
  rw [Text.collapse_collapse]

section Compute

variable {elements : List NovelElement} {patents : List PatentRecord}
  {assessments : List Assessment}

theorem highCount_compute : (compute elements patents assessments).highCount =
    (counted patents assessments).countP (·.relevance = .high) := by
  rw [← map_snd_material, List.countP_map]
  rfl

theorem mediumCount_compute : (compute elements patents assessments).mediumCount =
    (counted patents assessments).countP (·.relevance = .medium) := by
  rw [← map_snd_material, List.countP_map]
  rfl

theorem countP_high_add_countP_medium :
    (counted patents assessments).countP (·.relevance = .high) +
        (counted patents assessments).countP (·.relevance = .medium) =
      (counted patents assessments).length := by
  have others : (counted patents assessments).countP (·.relevance = .medium) =
      (counted patents assessments).countP fun assessment => ¬assessment.relevance = .high := by
    apply List.countP_congr
    intro assessment member
    have material := (of_decide_eq_true (List.mem_filter.1 member).2).1
    rw [decide_eq_true_iff, decide_eq_true_iff]
    constructor
    · intro medium high
      rw [medium] at high
      cases high
    · exact material.resolve_left
  have all := @List.length_eq_countP_add_countP _ (fun assessment : Assessment =>
    decide (assessment.relevance = .high)) (counted patents assessments)
  simp only [decide_eq_true_eq] at all
  rw [others, all]

theorem count_coverage (relevance : Relevance) (id : String) :
    (coverage relevance (material patents assessments)).count id =
      (((counted patents assessments).filter (·.relevance = relevance)).flatMap
        (·.covered)).count id := by
  rw [coverage, Tally.count_ofList, ← map_snd_material, List.filter_map, List.flatMap_map]
  rfl

theorem assigneeCount_compute (distinct : (patents.map (·.id)).Nodup) (name : String) :
    (compute elements patents assessments).assigneeCount name =
      (counted patents assessments).countP
        (IsHeld patents fun first => nameKey first = nameKey name) := by
  rw [assigneeCount_eq_sum]
  show Tally.sum _ (.ofList ((material patents assessments).filterMap fun m =>
    assigneeName? m.1)) = _
  rw [Tally.sum_ofList, countP_names distinct]
  simp only [nameKey_collapse, decide_eq_true_eq]

theorem ranks_assignees (distinct : (patents.map (·.id)).Nodup) :
    ∃ table, Tally.Ranks (fun name => (counted patents assessments).countP
        (IsHeld patents fun first => Text.collapse first = name)) table ∧
      (compute elements patents assessments).assigneeFrequency = table.take mostRows := by
  refine ⟨_, ?_, rfl⟩
  have counts (name : String) :
      ((material patents assessments).filterMap fun m => assigneeName? m.1).count name =
        (counted patents assessments).countP
          (IsHeld patents fun first => Text.collapse first = name) := by
    rw [List.count, countP_names distinct]
    simp only [beq_iff_eq]
  rw [← funext counts]
  exact Tally.ranks_sortBy _

theorem ranks_cpcSubclasses :
    ∃ table, Tally.Ranks (fun code => (patents.flatMap (·.cpcSubclasses)).count code) table ∧
      (compute elements patents assessments).cpcHistogram = table.take mostRows :=
  ⟨_, Tally.ranks_sortBy _, rfl⟩

theorem elementCoverage_compute : (compute elements patents assessments).elementCoverage =
    elements.map fun element => ⟨element.id, element.description,
      (((counted patents assessments).filter (·.relevance = .high)).flatMap
        (·.covered)).count element.id,
      (((counted patents assessments).filter (·.relevance = .medium)).flatMap
        (·.covered)).count element.id⟩ := by
  show elements.map _ = _
  apply List.map_congr_left
  intro element _
  rw [count_coverage, count_coverage]

end Compute

/-- What the numbers of the statistics count. -/
structure IsCounted (elements : List NovelElement) (patents : List PatentRecord)
    (assessments : List Assessment) (stats : Statistics) : Prop where
  high : stats.highCount = (counted patents assessments).countP (·.relevance = .high)
  medium : stats.mediumCount = (counted patents assessments).countP (·.relevance = .medium)
  all : stats.highCount + stats.mediumCount = (counted patents assessments).length
  assignee : ∀ name, stats.assigneeCount name = (counted patents assessments).countP
    (IsHeld patents fun first => Text.lower (Text.collapse first) = Text.lower (Text.collapse name))
  assignees : ∃ table, Tally.Ranks (fun name => (counted patents assessments).countP
      (IsHeld patents fun first => Text.collapse first = name)) table ∧
    stats.assigneeFrequency = table.take mostRows
  cpcSubclasses : ∃ table,
    Tally.Ranks (fun code => (patents.flatMap (·.cpcSubclasses)).count code) table ∧
    stats.cpcHistogram = table.take mostRows
  elements : stats.elementCoverage = elements.map fun element => ⟨element.id, element.description,
    (((counted patents assessments).filter (·.relevance = .high)).flatMap
      (·.covered)).count element.id,
    (((counted patents assessments).filter (·.relevance = .medium)).flatMap
      (·.covered)).count element.id⟩
  total : ∀ row ∈ stats.elementCoverage, row.total = row.high + row.medium

/-- **Statistics.** Of patents with distinct identifiers and any assessments, the numbers count what
they are said to count. -/
theorem isCounted_compute {elements : List NovelElement} {patents : List PatentRecord}
    {assessments : List Assessment} (distinct : (patents.map (·.id)).Nodup) :
    IsCounted elements patents assessments (compute elements patents assessments) where
  high := highCount_compute
  medium := mediumCount_compute
  all := by
    rw [highCount_compute, mediumCount_compute]
    exact countP_high_add_countP_medium
  assignee := assigneeCount_compute distinct
  assignees := ranks_assignees distinct
  cpcSubclasses := ranks_cpcSubclasses
  elements := elementCoverage_compute
  total := fun _ _ => rfl

/-! ## A mixed portfolio -/

/-- Two of the patents are of one company, whose name is spelled in two ways; the first assignee of
the third is blank. -/
def mixedPatents : List PatentRecord :=
  [⟨"P1", "Seal", "", "2022-05-01", none, [" Acme   Corp ", "Zeta"], ["E02B", "E01C"], [], [], 1⟩,
    ⟨"P2", "Joint", "", "2021-03-09", none, ["ACME corp"], ["E01C"], [], [], 1⟩,
    ⟨"P3", "Grout", "", "2022-05-01", none, [" "], ["C04B"], [], [], 2⟩,
    ⟨"P4", "Mesh", "", "2019-11-26", none, ["Zeta"], [], [], [], 1⟩]

/-- One of the assessments is of a patent that was not retrieved. -/
def mixedRatings : List Assessment :=
  [⟨"P3", .high, "", ["NE2"], .one⟩, ⟨"P1", .high, "", ["NE1", "NE2"], .one⟩,
    ⟨"P9", .high, "", ["NE1"], .one⟩, ⟨"P2", .medium, "", ["NE1"], .one⟩,
    ⟨"P4", .low, "", ["NE1"], .one⟩]

def mixedElements : List NovelElement :=
  [⟨"NE1", "A seal of ice"⟩, ⟨"NE2", "A bed of salt"⟩]

theorem assigneeFrequency_mixed :
    (compute mixedElements mixedPatents mixedRatings).assigneeFrequency =
      [("ACME corp", 1), ("Acme Corp", 1)] := by
  have tally : Tally.ofList ((material mixedPatents mixedRatings).filterMap fun m =>
      assigneeName? m.1) = [("Acme Corp", 1), ("ACME corp", 1)] := by decide +kernel
  rw [compute]
  dsimp only
  rw [tally, Tally.top_eq_of_perm _ (.swap ..), Tally.top_eq_take _ (by decide +kernel)]
  rfl

theorem cpcHistogram_mixed :
    (compute mixedElements mixedPatents mixedRatings).cpcHistogram =
      [("E01C", 2), ("C04B", 1), ("E02B", 1)] := by
  have tally : (Tally.ofList (mixedPatents.flatMap (·.cpcSubclasses))).Perm
      [("E01C", 2), ("C04B", 1), ("E02B", 1)] := by decide +kernel
  rw [compute]
  dsimp only
  rw [Tally.top_eq_of_perm _ tally, Tally.top_eq_take _ (by decide +kernel)]
  rfl

theorem isCounted_compute_mixed : (mixedPatents.map (·.id)).Nodup ∧
    IsCounted mixedElements mixedPatents mixedRatings
      (compute mixedElements mixedPatents mixedRatings) ∧
    (compute mixedElements mixedPatents mixedRatings).assigneeCount "acme  CORP" = 2 ∧
    (compute mixedElements mixedPatents mixedRatings).assigneeFrequency =
      [("ACME corp", 1), ("Acme Corp", 1)] ∧
    (compute mixedElements mixedPatents mixedRatings).cpcHistogram =
      [("E01C", 2), ("C04B", 1), ("E02B", 1)] ∧
    (compute mixedElements mixedPatents mixedRatings).elementCoverage =
      [⟨"NE1", "A seal of ice", 1, 1⟩, ⟨"NE2", "A bed of salt", 2, 0⟩] := by
  have distinct : (mixedPatents.map (·.id)).Nodup := by decide
  exact ⟨distinct, isCounted_compute distinct, by decide +kernel, assigneeFrequency_mixed,
    cpcHistogram_mixed, by decide +kernel⟩

end Statistics

end PriorArt
