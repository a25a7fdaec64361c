import PriorArt.Landscape.Tally
import PriorArt.Patent.Assessment
import PriorArt.Patent.Record
import PriorArt.Strategy.Document
import PriorArt.Text.Lowercase

/-!
# Landscape statistics

What can be counted about the retrieved patents and their assessments: who holds the material ones,
which fields all of them lie in, which novel elements the material ones cover, and the list of the
most relevant prior art.
-/

namespace PriorArt

/-- How many material patents cover a novel element. -/
structure ElementCoverage where
  id : String
  description : String
  high : Nat
  medium : Nat
  deriving DecidableEq, Inhabited

def ElementCoverage.total (row : ElementCoverage) : Nat :=
  row.high + row.medium

/-- A material patent with its assessment. -/
structure PriorArtEntry where
  patentId : String
  title : String
  abstractText : String
  grantDate : String
  primaryAssignee : String
  relevance : Relevance
  overlap : String
  covered : List String
  deriving DecidableEq, Inhabited

/-- The statistics of a landscape. The tally of the assignees is kept whole, beside the rows of
it that are shown. -/
structure Statistics where
  assigneeFrequency : List (String × Nat)
  cpcHistogram : List (String × Nat)
  elementCoverage : List ElementCoverage
  highCount : Nat
  mediumCount : Nat
  topPriorArt : List PriorArtEntry
  totalRetrieved : Nat
  totalAssessed : Nat
  assigneeTally : Tally
  deriving DecidableEq, Inhabited

namespace Statistics

def mostRows : Nat := 10

def mostPriorArt : Nat := 20

/-- Names that differ in case and spacing only have one key. -/
def nameKey (name : String) : String :=
  Text.lower (Text.collapse name)

theorem nameKey_eq_empty_iff {name : String} :
    nameKey name = "" ↔ Text.isBlankText name = true := by
  rw [nameKey, Text.lower_eq_empty_iff, Text.collapse_eq_empty_iff]

/-- How many material patents an assignee holds, under whatever case and spacing of the name. -/
def assigneeCount (stats : Statistics) (name : String) : Nat :=
  stats.assigneeTally.foldl
    (fun sum row => if nameKey row.1 = nameKey name then sum + row.2 else sum) 0

theorem assigneeCount_eq_zero {stats : Statistics} {name : String}
    (none : ∀ row ∈ stats.assigneeTally, nameKey row.1 ≠ nameKey name) :
    stats.assigneeCount name = 0 := by
  unfold assigneeCount
  generalize stats.assigneeTally = tally at none
  induction tally with
  | nil => rfl
  | cons row rest ih =>
    rw [List.foldl_cons, if_neg (none row List.mem_cons_self)]
    exact ih fun row member => none row (List.mem_cons_of_mem _ member)

/-- The patent with an identifier: the last one, if several have it. -/
def patent? (patents : List PatentRecord) (id : String) : Option PatentRecord :=
  patents.foldl (fun found patent => if patent.id = id then some patent else found) none

def material (patents : List PatentRecord) (assessments : List Assessment) :
    List (PatentRecord × Assessment) :=
  (assessments.filter (·.relevance.isMaterial)).filterMap fun assessment =>
    (patent? patents assessment.patentId).map fun patent => (patent, assessment)

/-- The name under which a patent counts for its first assignee, unless that is blank. -/
def assigneeName? (patent : PatentRecord) : Option String :=
  match patent.assignees with
  | [] => none
  | first :: _ =>
    let name := Text.collapse first
    if name.isEmpty then none else some name

theorem isBlankText_of_assigneeName? {patent : PatentRecord} {name : String}
    (h : assigneeName? patent = some name) : Text.isBlankText name = false := by
  unfold assigneeName? at h
  split at h
  next => cases h
  next first _ =>
    simp only [Option.ite_none_left_eq_some, Bool.not_eq_true] at h
    obtain ⟨written, form⟩ := h
    rw [← Option.some.inj form, Text.isBlankText_collapse, Bool.eq_false_iff, ne_eq,
      ← Text.collapse_eq_empty_iff]
    simpa using written

def entry (patent : PatentRecord) (assessment : Assessment) : PriorArtEntry :=
  { patentId := assessment.patentId
    title := patent.title
    abstractText := patent.abstractText
    grantDate := patent.grantDate
    primaryAssignee := patent.primaryAssignee
    relevance := assessment.relevance
    overlap := assessment.overlap
    covered := assessment.covered }

/-- The more relevant first, then the later grant. -/
def byRelevance : PriorArtEntry → PriorArtEntry → Ordering :=
  compareLex (compareOn (·.relevance.rank)) (descendingOn (·.grantDate))

instance : Std.TransCmp byRelevance :=
  inferInstanceAs (Std.TransCmp (compareLex _ _))

/-- How often the identifiers of novel elements occur among what the assessments of a relevance
cover. -/
def coverage (relevance : Relevance) (members : List (PatentRecord × Assessment)) : Tally :=
  .ofList ((members.filter (·.2.relevance = relevance)).flatMap (·.2.covered))

def compute (elements : List NovelElement) (patents : List PatentRecord)
    (assessments : List Assessment) : Statistics :=
  let members := material patents assessments
  let assignees := Tally.ofList (members.filterMap fun m => assigneeName? m.1)
  let high := coverage .high members
  let medium := coverage .medium members
  { assigneeFrequency := assignees.top mostRows
    cpcHistogram := (Tally.ofList (patents.flatMap (·.cpcSubclasses))).top mostRows
    elementCoverage := elements.map fun element =>
      ⟨element.id, element.description, high.count element.id, medium.count element.id⟩
    highCount := members.countP (·.2.relevance = .high)
    mediumCount := members.countP (·.2.relevance = .medium)
    topPriorArt := (sortBy byRelevance (members.map fun m => entry m.1 m.2)).take mostPriorArt
    totalRetrieved := patents.length
    totalAssessed := assessments.length
    assigneeTally := assignees }

theorem topPriorArt_eq_take {elements : List NovelElement} {patents : List PatentRecord}
    {assessments : List Assessment}
    (sorted : ((material patents assessments).map fun m => entry m.1 m.2).Pairwise
      fun a b => (byRelevance a b).isLE = true) :
    (compute elements patents assessments).topPriorArt =
      ((material patents assessments).map fun m => entry m.1 m.2).take mostPriorArt := by
  unfold compute
  dsimp only
  rw [sortBy_eq_self sorted]

theorem assigneeCount_compute_of_isBlankText {elements : List NovelElement}
    {patents : List PatentRecord} {assessments : List Assessment} {name : String}
    (blank : Text.isBlankText name = true) :
    (compute elements patents assessments).assigneeCount name = 0 := by
  refine assigneeCount_eq_zero fun row member sameKey => ?_
  obtain ⟨rated, -, named⟩ := List.mem_filterMap.1 (Tally.mem_of_mem_ofList member)
  have written := isBlankText_of_assigneeName? named
  rw [nameKey_eq_empty_iff.2 blank, nameKey_eq_empty_iff] at sameKey
  rw [sameKey] at written
  cases written

/-! ## JSON form -/

open Json

def rowsJson (key : String) (rows : List (String × Nat)) : Json :=
  .array (rows.map fun row => .object [(key, .string row.1), ("count", nat row.2)])

end Statistics

open Json

def ElementCoverage.toJson (row : ElementCoverage) : Json :=
  .object [("id", .string row.id), ("description", .string row.description),
    ("high_count", nat row.high), ("medium_count", nat row.medium),
    ("total_count", nat row.total)]

def PriorArtEntry.toJson (e : PriorArtEntry) : Json :=
  .object [("patent_id", .string e.patentId), ("title", .string e.title),
    ("abstract", .string e.abstractText), ("grant_date", .string e.grantDate),
    ("primary_assignee", .string e.primaryAssignee), ("relevance", .string e.relevance.name),
    ("overlap_description", .string e.overlap), ("novel_elements_covered", strings e.covered)]

def Statistics.toJson (s : Statistics) : Json :=
  .object [("assignee_frequency", rowsJson "name" s.assigneeFrequency),
    ("cpc_histogram", rowsJson "subclass" s.cpcHistogram),
    ("element_coverage", .array (s.elementCoverage.map (·.toJson))),
    ("high_count", nat s.highCount), ("medium_count", nat s.mediumCount),
    ("top_prior_art", .array (s.topPriorArt.map (·.toJson))),
    ("total_retrieved", nat s.totalRetrieved), ("total_assessed", nat s.totalAssessed)]

end PriorArt
