import PriorArt.Proofs.Distinct
import PriorArt.Run.Search

/-!
# Patents and the answers that name them

What a search has found at any time is determined by the answers it got so far (`Merged`): the
first distinct identifiers in the order of their arrival, as many as the cap allows, each with the
record of its first row and the queries whose answers name it. Merging one more row keeps this
true (`Merged.merge`), and so does merging one more answer (`Merged.succeed`).
-/

namespace PriorArt

namespace Search

/-- The answers that queries got, in the order of the queries. -/
abbrev Answers := List (PlannedQuery × SearchResponse)

namespace Answers

def rows (answers : Answers) : List Listing :=
  answers.flatMap (·.2.listings)

def identifiers (answers : Answers) : List String :=
  (answers.rows.map fun row => Text.trim row.id).filter (· ≠ "")

/-- The distinct identifiers, in the order of their first appearance. -/
def arrivals (answers : Answers) : List String :=
  answers.identifiers.eraseDups

def naming (answers : Answers) (id : String) : List PlannedQuery :=
  (answers.filter fun answer => answer.2.listings.any (Text.trim ·.id = id)).map (·.1)

/-- The first row with an identifier. -/
def firstRow? (answers : Answers) (id : String) : Option Listing :=
  answers.rows.find? (Text.trim ·.id = id)

variable {answers : Answers} {item : PlannedQuery} {response : SearchResponse} {id : String}

theorem mem_arrivals : id ∈ answers.arrivals ↔ id ≠ "" ∧ ∃ row ∈ answers.rows, Text.trim row.id = id := by
  simp [arrivals, identifiers, and_comm]

theorem nodup_arrivals (answers : Answers) : answers.arrivals.Nodup :=
  nodup_eraseDups _

theorem mem_naming : item ∈ answers.naming id ↔
    ∃ response, (item, response) ∈ answers ∧ ∃ row ∈ response.listings, Text.trim row.id = id := by
  simp [naming]

/-! ### One more row -/

/-- The answers with one more row in the last of them. -/
def withRows (answers : Answers) (item : PlannedQuery) (response : SearchResponse)
    (listings : List Listing) : Answers :=
  answers ++ [(item, { response with listings })]

variable {listings : List Listing} {row : Listing}

theorem rows_withRows (answers : Answers) (item : PlannedQuery) (response : SearchResponse)
    (listings : List Listing) (row : Listing) :
    (answers.withRows item response (listings ++ [row])).rows =
      (answers.withRows item response listings).rows ++ [row] := by
  simp [withRows, rows]

theorem arrivals_withRows_of_blank (h : Text.trim row.id = "") :
    (answers.withRows item response (listings ++ [row])).arrivals =
      (answers.withRows item response listings).arrivals := by
  simp [arrivals, identifiers, rows_withRows, h]

theorem arrivals_withRows_of_mem
    (h : Text.trim row.id ∈ (answers.withRows item response listings).arrivals) :
    (answers.withRows item response (listings ++ [row])).arrivals =
      (answers.withRows item response listings).arrivals := by
  have named := (mem_arrivals.1 h).1
  unfold arrivals at h ⊢
  rw [List.mem_eraseDups] at h
  simpa [identifiers, rows_withRows, named] using eraseDups_concat_of_mem h

theorem arrivals_withRows_of_not_mem (named : Text.trim row.id ≠ "")
    (h : Text.trim row.id ∉ (answers.withRows item response listings).arrivals) :
    (answers.withRows item response (listings ++ [row])).arrivals =
      (answers.withRows item response listings).arrivals ++ [Text.trim row.id] := by
  unfold arrivals at h ⊢
  rw [List.mem_eraseDups] at h
  simpa [identifiers, rows_withRows, named] using eraseDups_concat_of_not_mem h

theorem firstRow?_withRows_of_some {first : Listing}
    (h : (answers.withRows item response listings).firstRow? id = some first) :
    (answers.withRows item response (listings ++ [row])).firstRow? id = some first := by
  unfold firstRow? at h ⊢
  rw [rows_withRows, List.find?_append, h, Option.some_or]

theorem firstRow?_withRows_of_not_mem (named : Text.trim row.id ≠ "")
    (h : Text.trim row.id ∉ (answers.withRows item response listings).arrivals) :
    (answers.withRows item response (listings ++ [row])).firstRow? (Text.trim row.id) =
      some row := by
  have absent : (answers.withRows item response listings).rows.find?
      (Text.trim ·.id = Text.trim row.id) = none := by
    rw [List.find?_eq_none]
    intro other member same
    exact h (mem_arrivals.2 ⟨named, other, member, by simpa using same⟩)
  unfold firstRow?
  rw [rows_withRows, List.find?_append, absent]
  simp

theorem naming_withRows (answers : Answers) (item : PlannedQuery) (response : SearchResponse)
    (listings : List Listing) (id : String) :
    (answers.withRows item response listings).naming id =
      answers.naming id ++ if listings.any (Text.trim ·.id = id) then [item] else [] := by
  by_cases h : listings.any (Text.trim ·.id = id) = true <;>
    simp only [naming, withRows, List.filter_append, List.filter_singleton, List.map_append, h] <;>
    rfl

theorem naming_withRows_of_ne (h : Text.trim row.id ≠ id) :
    (answers.withRows item response (listings ++ [row])).naming id =
      (answers.withRows item response listings).naming id := by
  simp [naming_withRows, h]

theorem matched_withRows (answers : Answers) (item : PlannedQuery) (response : SearchResponse)
    (listings : List Listing) (row : Listing) :
    (((answers.withRows item response (listings ++ [row])).naming (Text.trim row.id)).map
        (·.id)).eraseDups =
      (((answers.withRows item response listings).naming (Text.trim row.id)).map (·.id) ++
        [item.id]).eraseDups := by
  simp only [naming_withRows]
  by_cases before : listings.any (Text.trim ·.id = Text.trim row.id) = true
  · simp only [before, if_true, List.any_append, Bool.true_or]
    refine (eraseDups_concat_of_mem ?_).symm
    simp
  · simp [before]

end Answers

open Answers

/-! ## Found patents -/

/-- The patent has the fields of its first row, and is noted for the queries that name it. -/
def HasRecord (answers : Answers) (patent : PatentRecord) : Prop :=
  (∃ row, answers.firstRow? patent.id = some row ∧
    { patent with matchedQueries := [], strategyCount := 0 } = row.record) ∧
  patent.matchedQueries = ((answers.naming patent.id).map (·.id)).eraseDups

@[simp] theorem matchedBy_id (query : String) (patent : PatentRecord) :
    (matchedBy query patent).id = patent.id := by
  unfold matchedBy
  split <;> rfl

theorem matchedBy_fields (query : String) (patent : PatentRecord) :
    { matchedBy query patent with matchedQueries := [], strategyCount := 0 } =
      { patent with matchedQueries := [], strategyCount := 0 } := by
  unfold matchedBy
  split <;> rfl

namespace HasRecord

variable {answers : Answers} {item : PlannedQuery} {response : SearchResponse}
  {listings : List Listing} {row : Listing} {patent : PatentRecord}

theorem of_ne (h : HasRecord (answers.withRows item response listings) patent)
    (differs : Text.trim row.id ≠ patent.id) :
    HasRecord (answers.withRows item response (listings ++ [row])) patent := by
  obtain ⟨⟨first, isFirst, fields⟩, queries⟩ := h
  refine ⟨⟨first, firstRow?_withRows_of_some isFirst, fields⟩, ?_⟩
  rw [queries, naming_withRows_of_ne differs]

theorem matchedBy (h : HasRecord (answers.withRows item response listings) patent)
    (same : Text.trim row.id = patent.id) :
    HasRecord (answers.withRows item response (listings ++ [row]))
      (matchedBy item.id patent) := by
  obtain ⟨⟨first, isFirst, fields⟩, queries⟩ := h
  refine ⟨⟨first, ?_, (matchedBy_fields ..).trans fields⟩, ?_⟩
  · rw [matchedBy_id]
    exact firstRow?_withRows_of_some isFirst
  · rw [matchedBy_id, ← same, matched_withRows, same]
    unfold Search.matchedBy
    by_cases known : item.id ∈ patent.matchedQueries
    · rw [if_pos (by simpa using known), queries]
      rw [queries, List.mem_eraseDups] at known
      exact (eraseDups_concat_of_mem known).symm
    · rw [if_neg (by simpa using known), queries]
      rw [queries, List.mem_eraseDups] at known
      exact (eraseDups_concat_of_not_mem known).symm

theorem first (named : Text.trim row.id ≠ "")
    (new : Text.trim row.id ∉ (answers.withRows item response listings).arrivals) :
    HasRecord (answers.withRows item response (listings ++ [row]))
      { row.record with matchedQueries := [item.id] } := by
  refine ⟨⟨row, firstRow?_withRows_of_not_mem named new, rfl⟩, ?_⟩
  have unnamed : (answers.withRows item response listings).naming (Text.trim row.id) = [] := by
    refine List.eq_nil_iff_forall_not_mem.2 fun query member => ?_
    obtain ⟨reply, answered, other, inReply, same⟩ := mem_naming.1 member
    exact new (mem_arrivals.2 ⟨named, other, List.mem_flatMap.2 ⟨_, answered, inReply⟩, same⟩)
  have queries := matched_withRows answers item response listings row
  rw [unnamed] at queries
  exact queries.symm

end HasRecord

/-- What was found after these answers. -/
structure Merged (cap : Nat) (answers : Answers) (found : List PatentRecord) : Prop where
  ids : found.map (·.id) = answers.arrivals.take cap
  records : ∀ patent ∈ found, HasRecord answers patent

namespace Merged

variable {cap : Nat} {answers : Answers} {found : List PatentRecord} {item : PlannedQuery}
  {response : SearchResponse} {listings : List Listing}

theorem nil (cap : Nat) : Merged cap [] [] :=
  ⟨by simp [arrivals, identifiers, rows], by simp⟩

theorem length_eq (h : Merged cap answers found) :
    found.length = min cap answers.arrivals.length := by
  rw [← List.length_map (·.id), h.ids, List.length_take]

theorem nodup (h : Merged cap answers found) : (found.map (·.id)).Nodup := by
  rw [h.ids]
  exact (nodup_arrivals answers).sublist (List.take_sublist ..)

theorem mem_arrivals (h : Merged cap answers found) {patent : PatentRecord}
    (member : patent ∈ found) : patent.id ∈ answers.arrivals := by
  have : patent.id ∈ found.map (·.id) := List.mem_map_of_mem member
  rw [h.ids] at this
  exact List.mem_of_mem_take this

theorem withRows_nil (h : Merged cap answers found) (item : PlannedQuery)
    (response : SearchResponse) : Merged cap (answers.withRows item response []) found := by
  have rows : (answers.withRows item response []).rows = answers.rows := by
    simp [withRows, Answers.rows]
  refine ⟨by rw [h.ids, arrivals, arrivals, identifiers, identifiers, rows], ?_⟩
  intro patent member
  obtain ⟨⟨row, first, fields⟩, queries⟩ := h.records patent member
  refine ⟨⟨row, ?_, fields⟩, ?_⟩
  · rw [firstRow?, rows]
    exact first
  · rw [queries, naming_withRows]
    simp

section Row

variable {row : Listing} (h : Merged cap (answers.withRows item response listings) found)

include h

theorem of_blank (blank : Text.trim row.id = "") :
    Merged cap (answers.withRows item response (listings ++ [row])) found := by
  refine ⟨by rw [h.ids, arrivals_withRows_of_blank blank], fun patent member => ?_⟩
  refine (h.records patent member).of_ne fun same => ?_
  exact (Answers.mem_arrivals.1 (h.mem_arrivals member)).1 (same ▸ blank)

theorem of_known (known : Text.trim row.id ∈ found.map (·.id)) :
    Merged cap (answers.withRows item response (listings ++ [row]))
      (found.map fun p => if p.id = Text.trim row.id then Search.matchedBy item.id p else p) := by
  obtain ⟨old, inFound, same⟩ := List.mem_map.1 known
  refine ⟨?_, ?_⟩
  · rw [arrivals_withRows_of_mem (same ▸ h.mem_arrivals inFound), ← h.ids, List.map_map]
    refine List.map_congr_left fun patent _ => ?_
    dsimp only [Function.comp_apply]
    split
    · exact matchedBy_id ..
    · rfl
  · intro _ isMerged
    obtain ⟨patent, member, rfl⟩ := List.mem_map.1 isMerged
    by_cases same : patent.id = Text.trim row.id
    · rw [if_pos same]
      exact (h.records patent member).matchedBy same.symm
    · rw [if_neg same]
      exact (h.records patent member).of_ne (Ne.symm same)

theorem of_unknown (named : Text.trim row.id ≠ "") (unknown : Text.trim row.id ∉ found.map (·.id)) :
    Merged cap (answers.withRows item response (listings ++ [row]))
      (if cap ≤ found.length then found
        else found ++ [{ row.record with matchedQueries := [item.id] }]) := by
  have others : ∀ patent ∈ found,
      HasRecord (answers.withRows item response (listings ++ [row])) patent :=
    fun patent member =>
      (h.records patent member).of_ne fun same => unknown (same ▸ List.mem_map_of_mem member)
  by_cases arrived : Text.trim row.id ∈ (answers.withRows item response listings).arrivals
  · -- The identifier came before, but the cap left it out.
    have full : cap ≤ found.length := by
      rw [h.length_eq]
      by_contra below
      have all : (answers.withRows item response listings).arrivals.length ≤ cap := by omega
      rw [h.ids, List.take_of_length_le all] at unknown
      exact unknown arrived
    rw [if_pos full]
    exact ⟨by rw [h.ids, arrivals_withRows_of_mem arrived], others⟩
  · split
    case isTrue full =>
      have full : cap ≤ (answers.withRows item response listings).arrivals.length := by
        rw [h.length_eq] at full; omega
      refine ⟨?_, others⟩
      rw [h.ids, arrivals_withRows_of_not_mem named arrived, List.take_append_of_le_length full]
    case isFalse below =>
      have below : (answers.withRows item response listings).arrivals.length < cap := by
        rw [h.length_eq] at below; omega
      refine ⟨?_, ?_⟩
      · rw [List.map_append, h.ids, arrivals_withRows_of_not_mem named arrived,
          List.take_of_length_le (by omega), List.take_of_length_le (by simp; omega)]
        rfl
      · intro patent member
        rcases List.mem_append.1 member with member | member
        · exact others patent member
        · rw [List.mem_singleton.1 member]
          exact HasRecord.first named arrived

end Row

theorem merge (h : Merged cap (answers.withRows item response listings) found) (row : Listing) :
    Merged cap (answers.withRows item response (listings ++ [row]))
      (Search.merge cap item.id found row) := by
  unfold Search.merge
  dsimp only
  split
  case isTrue blank => exact h.of_blank (by simpa [Listing.record] using blank)
  case isFalse named =>
    have named : Text.trim row.id ≠ "" := by simpa [Listing.record] using named
    split
    case isTrue known =>
      obtain ⟨old, inFound, same⟩ := List.any_eq_true.1 known
      exact h.of_known (List.mem_map.2 ⟨old, inFound, of_decide_eq_true same⟩)
    case isFalse unknown =>
      refine h.of_unknown named fun member => ?_
      obtain ⟨old, inFound, same⟩ := List.mem_map.1 member
      exact unknown (List.any_eq_true.2 ⟨old, inFound, decide_eq_true same⟩)

theorem foldl_merge (rows : List Listing) :
    ∀ {listings : List Listing} {found : List PatentRecord},
      Merged cap (answers.withRows item response listings) found →
      Merged cap (answers.withRows item response (listings ++ rows))
        (rows.foldl (Search.merge cap item.id) found) := by
  induction rows with
  | nil => intro listings found h; simpa using h
  | cons row rest ih =>
    intro listings found h
    rw [List.foldl_cons, List.append_cons]
    exact ih (h.merge row)

theorem answer (h : Merged cap answers found) (item : PlannedQuery) (response : SearchResponse) :
    Merged cap (answers ++ [(item, response)])
      (response.listings.foldl (Search.merge cap item.id) found) := by
  simpa [withRows] using (h.withRows_nil item response).foldl_merge response.listings

end Merged

end Search

end PriorArt
