import PriorArt.Patent.Assessment
import PriorArt.Patent.Listing
import PriorArt.Proofs.Documents.Fields
import PriorArt.Run.Request
import PriorArt.Strategy.Document

/-!
# Documents that are written and read again

For each part of a document there is a lemma by which it is read again, from what is written for it
and from the canonical form of that, field by field (`reads_toJson`).
-/

namespace PriorArt

open Json

/-! ## Strategies -/

theorem Priority.reads_toJson (p : Priority) : Reads Priority.ofJson? p.toJson p := by
  have text := (Reads.string p.name).map ofText
  rwa [ofText_name] at text

namespace NovelElement

@[simp] theorem isReadable_toJson (e : NovelElement) : IsReadable e.toJson := by
  simp [toJson]

theorem reads_toJson (e : NovelElement) : Reads ofJson? e.toJson e := by
  intro form isForm
  obtain ⟨r, record, given⟩ := exists_record isForm (by decide : fields.IsProper) (.refl _)
  have id := given.get? "id" rfl (.string e.id)
  have description := given.get? "description" rfl (.string e.description)
  simp [ofJson?, record, id, description]

end NovelElement

namespace TermFamily

@[simp] theorem isReadable_toJson (f : TermFamily) : IsReadable f.toJson := by
  simp [toJson]

theorem reads_toJson (f : TermFamily) : Reads ofJson? f.toJson f := by
  intro form isForm
  obtain ⟨r, record, given⟩ := exists_record isForm (by decide : fields.IsProper) (.refl _)
  have canonical := given.get? "canonical" rfl (.string f.canonical)
  have synonyms := given.getD? "synonyms" rfl (.strings f.synonyms) []
  have acronyms := given.getD? "acronyms" rfl (.strings f.acronyms) []
  have variants := given.getD? "patent_variants" rfl (.strings f.variants) []
  simp [ofJson?, record, canonical, synonyms, acronyms, variants]

end TermFamily

namespace SearchStrategy

@[simp] theorem isReadable_toJson (s : SearchStrategy) : IsReadable s.toJson := by
  simp [toJson, Priority.toJson]

theorem reads_toJson (s : SearchStrategy) : Reads ofJson? s.toJson s := by
  intro form isForm
  obtain ⟨r, record, given⟩ := exists_record isForm (by decide : fields.IsProper) (.refl _)
  have id := given.get? "id" rfl (.string s.id)
  have description := given.getD? "description" rfl (.string s.description) ""
  have priority := given.getD? "priority" rfl s.priority.reads_toJson .tertiary
  have families : Reads (list? TermFamily.ofJson?) (.array (s.termFamilies.map (·.toJson)))
      s.termFamilies := .list fun f _ => f.reads_toJson
  have termFamilies := given.getD? "term_families" rfl families []
  have phrases := given.getD? "phrases" rfl (.strings s.phrases) []
  have cpcSubclasses := given.getD? "cpc_subclasses" rfl (.strings s.cpcSubclasses) []
  simp [ofJson?, record, id, description, priority, termFamilies, phrases, cpcSubclasses]

end SearchStrategy

namespace StrategyDocument

@[simp] theorem isReadable_toJson (d : StrategyDocument) : IsReadable d.toJson := by
  simp [toJson]

theorem reads_toJson {d : StrategyDocument} (finite : d.confidence.isFinite = true) :
    Reads ofJson? d.toJson d := by
  intro form isForm
  obtain ⟨r, record, given⟩ := exists_record isForm (by decide : fields.IsProper) (.refl _)
  have title := given.get? "invention_title" rfl (.string d.title)
  have summary := given.get? "invention_summary" rfl (.string d.summary)
  have allElements : Reads (list? NovelElement.ofJson?) (.array (d.elements.map (·.toJson)))
      d.elements := .list fun e _ => e.reads_toJson
  have elements := given.get? "novel_elements" rfl allElements
  have domains := given.getD? "technology_domains" rfl (.strings d.domains) []
  have allStrategies : Reads (list? SearchStrategy.ofJson?) (.array (d.strategies.map (·.toJson)))
      d.strategies := .list fun s _ => s.reads_toJson
  have strategies := given.get? "query_strategies" rfl allStrategies
  have confidence := given.get? "confidence_score" rfl (.double finite)
  have confidenceReason := given.getD? "confidence_reason" rfl (.string d.confidenceReason) ""
  simp [ofJson?, record, title, summary, elements, domains, strategies, confidence,
    confidenceReason]

/-- A confidence that is not finite is written as `null`, from which none is read. -/
theorem isFinite_of_ofJson? {d e : StrategyDocument} (read : ofJson? d.toJson = some e) :
    d.confidence.isFinite = true := by
  have written : IsFormOf d.toJson d.toJson := .inl rfl
  obtain ⟨r, record, given⟩ := exists_record written (by decide : fields.IsProper) (.refl _)
  simp only [ofJson?, record, Option.bind_eq_bind, Option.bind_eq_some_iff, pure,
    Option.some.injEq] at read
  obtain ⟨_, rfl, title, -, summary, -, elements, -, domains, -, strategies, -, confidence,
    readConfidence, -⟩ := read
  exact isFinite_of_double?
    (given.of_get? "confidence_score" rfl (isTree_double d.confidence) readConfidence)

end StrategyDocument

/-! ## Assessments and patents -/

namespace Assessment

@[simp] theorem isReadable_toJson (a : Assessment) : IsReadable a.toJson := by
  simp [toJson]

theorem reads_toJson {a : Assessment} (finite : a.confidence.isFinite = true) :
    Reads ofJson? a.toJson a := by
  intro form isForm
  obtain ⟨r, record, given⟩ := exists_record isForm (by decide : fields.IsProper) (.refl _)
  have patentId := given.get? "patent_id" rfl (.string a.patentId)
  have relevance := given.getD? "relevance" rfl ((Reads.string _).map Relevance.ofText) .none
  have overlap := given.getD? "overlap_description" rfl (.string a.overlap) ""
  have covered := given.getD? "novel_elements_covered" rfl (.strings a.covered) []
  have confidence := given.getD? "confidence" rfl (.double finite) .zero
  rw [Relevance.ofText_name] at relevance
  simp [ofJson?, record, patentId, relevance, overlap, covered, confidence]

theorem isFinite_of_ofJson? {a b : Assessment} (read : ofJson? a.toJson = some b) :
    a.confidence.isFinite = true := by
  have written : IsFormOf a.toJson a.toJson := .inl rfl
  obtain ⟨r, record, given⟩ := exists_record written (by decide : fields.IsProper) (.refl _)
  simp only [ofJson?, record, Option.bind_eq_bind, Option.bind_eq_some_iff, pure,
    Option.some.injEq] at read
  obtain ⟨_, rfl, patentId, -, relevance, -, overlap, -, covered, -, confidence, readConfidence,
    -⟩ := read
  exact isFinite_of_double?
    (given.of_getD? "confidence" rfl (isTree_double a.confidence) readConfidence)

end Assessment

namespace PatentRecord

@[simp] theorem isReadable_toJson (p : PatentRecord) : IsReadable p.toJson := by
  have filingDate : IsReadable (orNull .string p.filingDate) :=
    isReadable_orNull fun s _ => isReadable_string s
  simp [toJson, filingDate]

theorem reads_toJson {p : PatentRecord} (small : p.strategyCount < Nat.pow 2 32) :
    Reads ofJson? p.toJson p := by
  intro form isForm
  obtain ⟨r, record, given⟩ := exists_record isForm (by decide : fields.IsProper) (.refl _)
  have id := given.get? "patent_id" rfl (.string p.id)
  have title := given.get? "title" rfl (.string p.title)
  have abstractText := given.get? "abstract" rfl (.string p.abstractText)
  have grantDate := given.get? "grant_date" rfl (.string p.grantDate)
  have date : Reads (orNull? string?) (orNull .string p.filingDate) p.filingDate :=
    .orNull (fun s _ => .string s) (fun _ _ => nofun)
  have filingDate := given.getD? "filing_date" rfl date none
  have assignees := given.get? "assignees" rfl (.strings p.assignees)
  have cpcSubclasses := given.get? "cpc_subclasses" rfl (.strings p.cpcSubclasses)
  have inventors := given.get? "inventors" rfl (.strings p.inventors)
  have matchedQueries := given.get? "matched_query_ids" rfl (.strings p.matchedQueries)
  have count : Reads nat32? (nat p.strategyCount) p.strategyCount := .nat small
  have strategyCount := given.get? "strategy_count" rfl count
  simp [ofJson?, record, id, title, abstractText, grantDate, filingDate, assignees, cpcSubclasses,
    inventors, matchedQueries, strategyCount]

theorem strategyCount_lt_of_ofJson? {p : PatentRecord} {j : Json} (read : ofJson? j = some p) :
    p.strategyCount < Nat.pow 2 32 := by
  simp only [ofJson?, Option.bind_eq_bind, Option.bind_eq_some_iff, pure, Option.some.injEq]
    at read
  obtain ⟨r, -, id, -, title, -, abstractText, -, grantDate, -, filingDate, -, assignees, -,
    cpcSubclasses, -, inventors, -, matchedQueries, -, strategyCount, readCount, rfl⟩ := read
  obtain ⟨value, number⟩ := exists_of_get? readCount
  exact lt_of_natBelow? number

end PatentRecord

/-! ## Requests -/

namespace ScreenConcerns

@[simp] theorem isReadable_toJson (c : ScreenConcerns) : IsReadable c.toJson := by
  simp [toJson]

theorem reads_toJson (c : ScreenConcerns) : Reads ofJson? c.toJson c := by
  intro form isForm
  obtain ⟨r, record, given⟩ := exists_record isForm (by decide : fields.IsProper) (.refl _)
  have novelty := given.getD? "novelty_concerns" rfl (.strings c.novelty) []
  have nonObviousness := given.getD? "non_obviousness_concerns" rfl (.strings c.nonObviousness) []
  have searchPriority := given.getD? "search_priority" rfl (.string c.searchPriority) ""
  simp [ofJson?, record, novelty, nonObviousness, searchPriority]

end ScreenConcerns

namespace ScreenExtraction

@[simp] theorem isReadable_toJson (e : ScreenExtraction) : IsReadable e.toJson := by
  simp [toJson]

theorem reads_toJson (e : ScreenExtraction) : Reads ofJson? e.toJson e := by
  intro form isForm
  obtain ⟨r, record, given⟩ := exists_record isForm (by decide : fields.IsProper) (.refl _)
  have title := given.getD? "invention_title" rfl (.string e.title) ""
  have technologyArea := given.getD? "technology_area" rfl (.string e.technologyArea) ""
  have elements := given.getD? "novel_elements" rfl (.strings e.elements) []
  have description := given.getD? "invention_description" rfl (.string e.description) ""
  simp [ofJson?, record, title, technologyArea, elements, description]

end ScreenExtraction

namespace PriorContext

@[simp] theorem isReadable_toJson (c : PriorContext) : IsReadable c.toJson := by
  have concerns : IsReadable (orNull (·.toJson) c.concerns) :=
    isReadable_orNull fun d _ => d.isReadable_toJson
  have extraction : IsReadable (orNull (·.toJson) c.extraction) :=
    isReadable_orNull fun e _ => e.isReadable_toJson
  simp [toJson, concerns, extraction]

theorem reads_toJson (c : PriorContext) : Reads ofJson? c.toJson c := by
  intro form isForm
  obtain ⟨r, record, given⟩ := exists_record isForm (by decide : fields.IsProper) (.refl _)
  have someConcerns : Reads (orNull? ScreenConcerns.ofJson?) (orNull (·.toJson) c.concerns)
      c.concerns := .orNull (fun d _ => d.reads_toJson) (fun _ _ => nofun)
  have concerns := given.getD? "concerns" rfl someConcerns none
  have someExtraction : Reads (orNull? ScreenExtraction.ofJson?)
      (orNull (·.toJson) c.extraction) c.extraction :=
    .orNull (fun e _ => e.reads_toJson) (fun _ _ => nofun)
  have extraction := given.getD? "extraction" rfl someExtraction none
  simp [ofJson?, record, concerns, extraction]

end PriorContext

namespace Request

@[simp] theorem isReadable_toJson (request : Request) : IsReadable request.toJson := by
  cases context : request.priorContext <;> simp [toJson, context]

/-- What was left out is read as missing. -/
theorem reads_toJson (request : Request) : Reads ofJson? request.toJson request := by
  intro form isForm
  obtain ⟨caseId, disclosure, priorContext⟩ := request
  have proper : fields.IsProper := by decide
  cases priorContext with
  | none =>
    have names : ["case_id", "disclosure_text"].Sublist (fields.map (·.1)) := by decide
    obtain ⟨r, record, given⟩ := exists_record isForm proper names
    have readId := given.get? "case_id" rfl (.string caseId)
    have readDisclosure := given.get? "disclosure_text" rfl (.string disclosure)
    have noContext : r.getD? "prior_context" none (orNull? PriorContext.ofJson?) = some none :=
      given.getD?_missing "prior_context" rfl none
    simp [ofJson?, record, readId, readDisclosure, noContext]
  | some context =>
    obtain ⟨r, record, given⟩ := exists_record isForm proper (.refl _)
    have readId := given.get? "case_id" rfl (.string caseId)
    have readDisclosure := given.get? "disclosure_text" rfl (.string disclosure)
    have someContext : Reads (orNull? PriorContext.ofJson?) (orNull (·.toJson) (some context))
        (some context) := .orNull (fun c _ => c.reads_toJson) (fun _ _ => nofun)
    have readContext := given.getD? "prior_context" rfl someContext none
    simp [ofJson?, record, readId, readDisclosure, readContext]

end Request

/-! ## Answers of the patent-search service -/

namespace Listing

variable {row : Listing}

@[simp] theorem isReadable_inventorJson (i : Inventor) : IsReadable (inventorJson i) := by
  simp [inventorJson]

theorem isReadable_toJson (tree : IsTree row.application) : IsReadable row.toJson := by
  simp [toJson, tree.isReadable]

theorem reads_text (s : String) : Reads (nullAs? "" string?) (.string s) s :=
  .nullAs (.string s) nofun

theorem reads_rows {α : Type} {item : Json → Option α} {write : α → Json} {xs : List α}
    (each : ∀ x ∈ xs, Reads item (write x) x) :
    Reads (nullAs? [] (list? item)) (.array (xs.map write)) xs :=
  .nullAs (.list each) nofun

theorem isProper_single (name : String) : Fields.IsProper [(name, [])] where
  own := by simp [Fields.find?]
  distinct := by simp

theorem reads_single (name s : String) : Reads (single? name) (.object [(name, .string s)]) s := by
  intro form isForm
  obtain ⟨r, record, given⟩ := exists_record isForm (isProper_single name) (.refl _)
  have found : List.lookup name [(name, Json.string s)] = some (.string s) := List.lookup_cons_self
  have text := given.getD? name found (reads_text s) ""
  simp [single?, record, text?, text]

theorem reads_inventorJson (i : Inventor) : Reads inventor? (inventorJson i) i := by
  intro form isForm
  obtain ⟨r, record, given⟩ := exists_record isForm
    (by decide : Fields.IsProper [("inventor_name_first", []), ("inventor_name_last", [])])
    (.refl _)
  have first := given.getD? "inventor_name_first" rfl (reads_text i.first) ""
  have last := given.getD? "inventor_name_last" rfl (reads_text i.last) ""
  simp [inventor?, record, text?, first, last]

theorem reads_toJson (tree : IsTree row.application) : Reads ofJson? row.toJson row := by
  intro form isForm
  obtain ⟨r, record, given⟩ := exists_record isForm (by decide : fields.IsProper) (.refl _)
  have id := given.getD? "patent_id" rfl (reads_text row.id) ""
  have title := given.getD? "patent_title" rfl (reads_text row.title) ""
  have abstractText := given.getD? "patent_abstract" rfl (reads_text row.abstractText) ""
  have date := given.getD? "patent_date" rfl (reads_text row.date) ""
  have application := given.getD? "application" rfl (.tree tree) .null
  have names (s : String) (_ : s ∈ row.assignees) := reads_single "assignee_organization" s
  have assignees := given.getD? "assignees" rfl (reads_rows names) []
  have codes (s : String) (_ : s ∈ row.cpcSubclasses) := reads_single "cpc_subclass_id" s
  have cpcSubclasses := given.getD? "cpc_at_issue" rfl (reads_rows codes) []
  have people (i : Inventor) (_ : i ∈ row.inventors) := reads_inventorJson i
  have inventors := given.getD? "inventors" rfl (reads_rows people) []
  simp [ofJson?, record, text?, rows?, id, title, abstractText, date, application, assignees,
    cpcSubclasses, inventors]

theorem isTree_of_ofJson? {j : Json} (read : ofJson? j = some row) : IsTree row.application := by
  simp only [ofJson?, Option.bind_eq_bind, Option.bind_eq_some_iff, pure, Option.some.injEq]
    at read
  obtain ⟨r, -, id, -, title, -, abstractText, -, date, -, application, readApplication, assignees,
    -, cpcSubclasses, -, inventors, -, rfl⟩ := read
  rcases exists_of_getD? readApplication with rfl | ⟨value, tree⟩
  · exact .null
  · exact isTree_of_tree? tree

end Listing

namespace SearchResponse

/-- The numbers have 64 bits, and the parts on the applications are trees. -/
structure IsProper (response : SearchResponse) : Prop where
  count : response.count < Nat.pow 2 64
  totalHits : response.totalHits < Nat.pow 2 64
  applications : ∀ row ∈ response.listings, IsTree row.application

variable {response : SearchResponse}

theorem isReadable_toJson (proper : response.IsProper) : IsReadable response.toJson := by
  have listings : ∀ row ∈ response.listings, IsReadable row.toJson := fun row member =>
    Listing.isReadable_toJson (proper.applications row member)
  simpa [toJson] using listings

theorem reads_toJson (proper : response.IsProper) : Reads ofJson? response.toJson response := by
  intro form isForm
  obtain ⟨r, record, given⟩ := exists_record isForm (by decide : fields.IsProper) (.refl _)
  have error := given.getD? "error" rfl (.bool response.error) false
  have number : Reads nat64? (nat response.count) response.count := .nat proper.count
  have count := given.getD? "count" rfl number 0
  have hits : Reads nat64? (nat response.totalHits) response.totalHits := .nat proper.totalHits
  have totalHits := given.getD? "total_hits" rfl hits 0
  have rows (row : Listing) (member : row ∈ response.listings) :=
    Listing.reads_toJson (proper.applications row member)
  have listings := given.getD? "patents" rfl (Listing.reads_rows rows) []
  simp [ofJson?, record, Listing.rows?, error, count, totalHits, listings]

/-- Every answer that was read is of this kind. -/
theorem isProper_of_ofJson? {j : Json} (read : ofJson? j = some response) : response.IsProper := by
  simp only [ofJson?, Option.bind_eq_bind, Option.bind_eq_some_iff, pure, Option.some.injEq]
    at read
  obtain ⟨r, -, error, -, count, readCount, totalHits, readHits, listings, readListings, rfl⟩ :=
    read
  have small (n : Nat) (name : String) (readNumber : r.getD? name 0 nat64? = some n) :
      n < Nat.pow 2 64 := by
    rcases exists_of_getD? readNumber with rfl | ⟨value, number⟩
    · decide
    · exact lt_of_natBelow? number
  refine ⟨small count _ readCount, small totalHits _ readHits, fun row member => ?_⟩
  have noRows (none : listings = []) : IsTree row.application := by
    subst none
    cases member
  rcases exists_of_getD? readListings with none | ⟨value, rows⟩
  · exact noRows none
  · rcases of_nullAs? rows with none | rows
    · exact noRows none
    · obtain ⟨j, readRow⟩ := exists_of_list? rows row member
      exact Listing.isTree_of_ofJson? readRow

end SearchResponse

/-! ## All documents -/

/-- **Documents survive being written.** A strategy document and an assessment are read again just
as they were, from what is written for them and from its canonical form, if their confidence is
finite, and otherwise not. So are all patents whose count is a number of 32 bits, all requests, and
all answers of the patent-search service whose numbers have 64 bits, whatever trees the parts on the
applications are. -/
theorem restores_toJson :
    (∀ d : StrategyDocument, Restores StrategyDocument.ofJson? d.toJson d ↔
      d.confidence.isFinite = true) ∧
    (∀ a : Assessment, Restores Assessment.ofJson? a.toJson a ↔
      a.confidence.isFinite = true) ∧
    (∀ p : PatentRecord, Restores PatentRecord.ofJson? p.toJson p ↔
      p.strategyCount < Nat.pow 2 32) ∧
    (∀ request : Request, Restores Request.ofJson? request.toJson request) ∧
    ∀ response : SearchResponse, Restores SearchResponse.ofJson? response.toJson response ↔
      response.IsProper := by
  refine ⟨fun d => ?_, fun a => ?_, fun p => ?_, fun request => ?_, fun response => ?_⟩
  · exact ⟨fun restores => StrategyDocument.isFinite_of_ofJson? (restores.reads _ (.inl rfl)),
      fun finite => ⟨d.isReadable_toJson, StrategyDocument.reads_toJson finite⟩⟩
  · exact ⟨fun restores => Assessment.isFinite_of_ofJson? (restores.reads _ (.inl rfl)),
      fun finite => ⟨a.isReadable_toJson, Assessment.reads_toJson finite⟩⟩
  · exact ⟨fun restores => PatentRecord.strategyCount_lt_of_ofJson? (restores.reads _ (.inl rfl)),
      fun small => ⟨p.isReadable_toJson, PatentRecord.reads_toJson small⟩⟩
  · exact ⟨request.isReadable_toJson, request.reads_toJson⟩
  · exact ⟨fun restores => SearchResponse.isProper_of_ofJson? (restores.reads _ (.inl rfl)),
      fun proper => ⟨SearchResponse.isReadable_toJson proper, SearchResponse.reads_toJson proper⟩⟩

end PriorArt
