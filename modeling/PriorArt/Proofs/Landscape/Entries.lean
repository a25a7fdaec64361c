import PriorArt.Proofs.Assessment.Conservation
import PriorArt.Proofs.Landscape.Arrangement

/-!
# The list of prior art

1. `PriorArtEntry.Precedes`: the order of the list, written out. Its last two keys are not compared
   when the list is sorted; they come from the order of the assessments.
2. `Statistics.pairwise_breaksTie`: assessments in their order for output give entries of which
   those of one relevance and one grant date are in order by the last two keys.
3. `Statistics.Lists`: the list before it is cut off, as a table with one entry for each material
   assessment of a retrieved patent, in order. There is one such table, and the list of prior art is
   its beginning (`Statistics.lists_topPriorArt`).
-/

namespace PriorArt

/-! ## The order -/

namespace PriorArtEntry

/-- The entry covers more elements, or as many and has the smaller identifier. -/
def BreaksTie (a b : PriorArtEntry) : Prop :=
  b.covered.length < a.covered.length ∨
    a.covered.length = b.covered.length ∧ a.patentId < b.patentId

/-- The entry is the more relevant, or as relevant and of a later grant, or of the same day and
breaks the tie. -/
def Precedes (a b : PriorArtEntry) : Prop :=
  a.relevance.rank < b.relevance.rank ∨ a.relevance.rank = b.relevance.rank ∧
    (b.grantDate < a.grantDate ∨ a.grantDate = b.grantDate ∧ a.BreaksTie b)

variable {a b : PriorArtEntry}

theorem BreaksTie.asymm (h : a.BreaksTie b) : ¬b.BreaksTie a := by
  intro back
  rcases h with more | ⟨asMany, below⟩
  · rcases back with more | ⟨asMany, -⟩
    · omega
    · omega
  · rcases back with more | ⟨-, above⟩
    · omega
    · exact String.lt_asymm below above

theorem Precedes.asymm (h : a.Precedes b) : ¬b.Precedes a := by
  intro back
  rcases h with relevant | ⟨asRelevant, h⟩
  · rcases back with relevant | ⟨asRelevant, -⟩
    · omega
    · omega
  rcases back with relevant | ⟨-, back⟩
  · omega
  rcases h with later | ⟨sameDay, first⟩
  · rcases back with earlier | ⟨sameDay, -⟩
    · exact String.lt_asymm later earlier
    · rw [sameDay] at later
      exact String.lt_irrefl _ later
  · rcases back with later | ⟨-, second⟩
    · rw [sameDay] at later
      exact String.lt_irrefl _ later
    · exact first.asymm second

/-- What is compared first decides, unless it is equal. -/
theorem precedes_of_byRelevance
    (h : Statistics.byRelevance a b = .lt ∨ Statistics.byRelevance a b = .eq ∧
      (a.relevance.rank = b.relevance.rank → a.grantDate = b.grantDate → a.BreaksTie b)) :
    a.Precedes b := by
  unfold Statistics.byRelevance compareLex at h
  rcases h with less | ⟨equal, breaksTie⟩
  · rcases Ordering.then_eq_lt.1 less with relevant | ⟨asRelevant, later⟩
    · exact .inl (compareOfLessAndEq_eq_lt.1 relevant)
    · exact .inr ⟨Std.compare_eq_iff_eq.1 asRelevant, .inl (compareOfLessAndEq_eq_lt.1 later)⟩
  · obtain ⟨asRelevant, sameDay⟩ := Ordering.then_eq_eq.1 equal
    have asRelevant : a.relevance.rank = b.relevance.rank := Std.compare_eq_iff_eq.1 asRelevant
    have sameDay : a.grantDate = b.grantDate := (Std.compare_eq_iff_eq.1 sameDay).symm
    exact .inr ⟨asRelevant, .inr ⟨sameDay, breaksTie asRelevant sameDay⟩⟩

/-- The entry carries the data of a patent and of its assessment. -/
structure Describes (entry : PriorArtEntry) (patent : PatentRecord) (assessment : Assessment) :
    Prop where
  own : patent.id = assessment.patentId
  patentId : entry.patentId = patent.id
  title : entry.title = patent.title
  abstractText : entry.abstractText = patent.abstractText
  grantDate : entry.grantDate = patent.grantDate
  primaryAssignee : entry.primaryAssignee = patent.primaryAssignee
  relevance : entry.relevance = assessment.relevance
  overlap : entry.overlap = assessment.overlap
  covered : entry.covered = assessment.covered

theorem describes_iff {entry : PriorArtEntry} {patent : PatentRecord} {assessment : Assessment} :
    entry.Describes patent assessment ↔
      patent.id = assessment.patentId ∧ Statistics.entry patent assessment = entry := by
  constructor
  · intro h
    cases entry
    obtain ⟨own, rfl, rfl, rfl, rfl, rfl, rfl, rfl, rfl⟩ := h
    refine ⟨own, ?_⟩
    rw [own]
    rfl
  · rintro ⟨own, rfl⟩
    exact ⟨own, own.symm, rfl, rfl, rfl, rfl, rfl, rfl, rfl⟩

end PriorArtEntry

namespace Statistics

variable {elements : List NovelElement} {patents : List PatentRecord} {given : List Assessment}
  {grantDate : String → String}

/-! ## The entries -/

/-- The entries of assessments in their order for output are in order among those of one relevance
and one grant date. -/
theorem pairwise_breaksTie (distinct : (patents.map (·.id)).Nodup)
    (distinctRated : (given.map (·.patentId)).Nodup)
    (dated : ∀ assessment ∈ given, ∀ patent ∈ patents, patent.id = assessment.patentId →
      grantDate patent.id = patent.grantDate) :
    ((material patents (Assessment.sortForOutput grantDate given)).map fun m =>
        entry m.1 m.2).Pairwise fun a b =>
      a.relevance.rank = b.relevance.rank → a.grantDate = b.grantDate → a.BreaksTie b := by
  have leads : (material patents (Assessment.sortForOutput grantDate given)).Pairwise
      fun m n => m.2.Leads grantDate n.2 := by
    rw [← List.pairwise_map, map_snd_material]
    exact (Assessment.pairwise_sortForOutput grantDate distinctRated).filter _
  have dateOf {m : PatentRecord × Assessment}
      (member : m ∈ material patents (Assessment.sortForOutput grantDate given)) :
      grantDate m.2.patentId = m.1.grantDate := by
    obtain ⟨isRated, -, isPatent, own⟩ := (mem_material_iff distinct).1 member
    rw [← own]
    exact dated m.2 (mem_sortBy.1 isRated) m.1 isPatent own
  rw [List.pairwise_map]
  apply leads.imp_of_mem
  intro m n isMember alsoMember h asRelevant sameDay
  have sameDay : grantDate m.2.patentId = grantDate n.2.patentId := by
    rw [dateOf isMember, dateOf alsoMember]
    exact sameDay
  rcases h with relevant | ⟨-, more | ⟨asMany, later | ⟨-, below⟩⟩⟩
  · exact absurd asRelevant (Nat.ne_of_lt relevant)
  · exact .inl more
  · rw [sameDay] at later
    exact absurd later (String.lt_irrefl _)
  · exact .inr ⟨asMany, below⟩

/-- The table has one entry for each material assessment of a retrieved patent, in order. -/
structure Lists (patents : List PatentRecord) (given : List Assessment)
    (table : List PriorArtEntry) : Prop where
  holds : ∀ entry, entry ∈ table ↔ ∃ assessment ∈ given,
    (assessment.relevance = .high ∨ assessment.relevance = .medium) ∧
      ∃ patent ∈ patents, entry.Describes patent assessment
  ordered : table.Pairwise PriorArtEntry.Precedes

theorem Lists.unique {table other : List PriorArtEntry} (h : Lists patents given table)
    (h' : Lists patents given other) : table = other := by
  refine eq_of_pairwise (fun _ _ => PriorArtEntry.Precedes.asymm) h.ordered h'.ordered ?_
  intro entry
  rw [h.holds, h'.holds]

/-- **Prior art.** Of patents and assessments with distinct identifiers, where the assessments come
in their order for output by the grant dates of their patents, the list of prior art is the
beginning of the table of all entries. -/
theorem lists_topPriorArt (distinct : (patents.map (·.id)).Nodup)
    (distinctRated : (given.map (·.patentId)).Nodup)
    (dated : ∀ assessment ∈ given, ∀ patent ∈ patents, patent.id = assessment.patentId →
      grantDate patent.id = patent.grantDate) :
    ∃ table, Lists patents given table ∧
      (compute elements patents (Assessment.sortForOutput grantDate given)).topPriorArt =
        table.take mostPriorArt := by
  refine ⟨_, ⟨?_, ?_⟩, rfl⟩
  · intro entry
    rw [mem_sortBy, List.mem_map]
    constructor
    · rintro ⟨m, member, rfl⟩
      obtain ⟨isRated, isMaterial, isPatent, own⟩ := (mem_material_iff distinct).1 member
      exact ⟨m.2, mem_sortBy.1 isRated, isMaterial, m.1, isPatent,
        PriorArtEntry.describes_iff.2 ⟨own, rfl⟩⟩
    · rintro ⟨assessment, isRated, isMaterial, patent, isPatent, describes⟩
      obtain ⟨own, form⟩ := PriorArtEntry.describes_iff.1 describes
      refine ⟨(patent, assessment), (mem_material_iff distinct).2 ?_, form⟩
      exact ⟨mem_sortBy.2 isRated, isMaterial, isPatent, own⟩
  · apply (pairwise_sortBy_of_pairwise (pairwise_breaksTie distinct distinctRated dated)).imp
    intro a b
    exact PriorArtEntry.precedes_of_byRelevance

/-- The first two assessments are of patents that were granted on one day. -/
theorem sortForOutput_mixed :
    Assessment.sortForOutput (Assess.grantDate mixedPatents) mixedRatings = swappedRatings := by
  have same : mixedRatings.Perm swappedRatings := .swap ..
  rw [Assessment.sortForOutput, sortBy_eq_of_perm same (by decide +kernel),
    sortBy_eq_self (by decide +kernel)]

theorem lists_topPriorArt_mixed : (mixedPatents.map (·.id)).Nodup ∧
    (mixedRatings.map (·.patentId)).Nodup ∧
    (∀ assessment ∈ mixedRatings, ∀ patent ∈ mixedPatents, patent.id = assessment.patentId →
      Assess.grantDate mixedPatents patent.id = patent.grantDate) ∧
    (∃ table, Lists mixedPatents mixedRatings table ∧
      (compute mixedElements mixedPatents (Assessment.sortForOutput
        (Assess.grantDate mixedPatents) mixedRatings)).topPriorArt = table.take mostPriorArt) ∧
    (compute mixedElements mixedPatents (Assessment.sortForOutput
      (Assess.grantDate mixedPatents) mixedRatings)).topPriorArt.map (·.patentId) =
        ["P1", "P3", "P2"] := by
  have distinct : (mixedPatents.map (·.id)).Nodup := by decide
  have distinctRated : (mixedRatings.map (·.patentId)).Nodup := by decide
  have dated : ∀ assessment ∈ mixedRatings, ∀ patent ∈ mixedPatents,
      patent.id = assessment.patentId →
        Assess.grantDate mixedPatents patent.id = patent.grantDate :=
    fun _ _ _ member _ => Assess.grantDate_of_mem distinct member
  refine ⟨distinct, distinctRated, dated, lists_topPriorArt distinct distinctRated dated, ?_⟩
  rw [sortForOutput_mixed]
  exact topPriorArt_mixed.2

end Statistics

end PriorArt
