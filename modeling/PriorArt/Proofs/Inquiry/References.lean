import PriorArt.Proofs.Assessment.Batches
import PriorArt.Proofs.Cancellation.Inquiry
import PriorArt.Proofs.Inquiry.Outcome
import PriorArt.Proofs.Landscape.References
import PriorArt.Proofs.Search.References
import PriorArt.Proofs.Strategy.Normal

/-!
# What a report refers to

A report refers only to what it holds, whatever the services said (`isIntact_run`): its patents to
planned queries, these to its strategies, its assessments to its patents and its novel elements,
and its prior art and its blocking patents to material assessments.
-/

namespace PriorArt

namespace Report

variable (report : Report)

/-- The patent with an identifier has an assessment of high or of medium relevance. -/
def HasMaterial (id : String) : Prop :=
  ∃ outcome, report.assessment = some outcome ∧ PriorArt.HasMaterial outcome.assessments id

/-- Everything that the report refers to is in it. -/
structure IsIntact : Prop where
  strategies : ∀ strategy ∈ report.strategy.strategies,
    Text.trim strategy.id = strategy.id ∧ strategy.id ≠ ""
  search : report.search.IsSound report.strategy.strategies
  assessment : ∀ outcome, report.assessment = some outcome →
    outcome.IsSound report.strategy report.search.patents
  priorArt : ∀ entry ∈ report.stats.topPriorArt, report.HasMaterial entry.patentId
  blocking : ∀ narrative, report.landscape = some narrative →
    ∀ id ∈ narrative.blockingRisk.patentIds, report.HasMaterial id

end Report

namespace Inquiry

/-- **The references of a report.** Whatever the services say, a report refers only to what it
holds. -/
theorem isIntact_run {settings : RunSettings} {request : Request} {services : Services}
    {clock : Clock} {report : Report}
    (ok : (run settings request services clock).result = .ok report) : report.IsIntact := by
  obtain ⟨-, strategy, search, planning, searching, completed⟩ := completed_of_result_eq_ok ok
  obtain ⟨rfl, rfl⟩ := completed.holds
  obtain ⟨document, normal⟩ := Planning.normalize_of_run planning
  have found : report.search.IsSound report.strategy.strategies :=
    Search.isSound_of_run searching
  exact
    { strategies := StrategyDocument.trimmed_of_normalize normal
      search := found
      assessment := fun outcome rated =>
        Assess.isSound_of_run found.distinct (completed.assessed_of_some rated)
      priorArt := by
        intro entry member
        rw [completed.stats_eq] at member
        have material := Statistics.mem_topPriorArt member
        cases rated : report.assessment with
        | none =>
          -- without assessments no patent is material
          rw [rated] at material
          obtain ⟨assessment, absent, -⟩ := material
          cases absent
        | some outcome =>
          rw [rated] at material
          exact ⟨outcome, rated, material⟩
      blocking := by
        intro narrative told id member
        obtain ⟨outcome, analysis, rated, analysing, rfl⟩ := completed.analysed_of_some told
        obtain ⟨draft, reconciled⟩ := Analysis.reconcile_of_run analysing
        exact ⟨outcome, rated, Narrative.material_of_reconcile reconciled id member⟩ }

/-! ### An inquiry about a road that heals -/

/-- The strategy as a model sends it, with identifiers that are not in normal form. -/
def roadReply : String :=
  "\x7b\"invention_title\":\"A road that heals\",
  \"invention_summary\":\"A road surface that closes its own cracks by heat.\",
  \"novel_elements\":[\x7b\"id\":\"ne1\",\"description\":\"Fibres made of steel\"\x7d,
  \x7b\"id\":\"ne2\",\"description\":\"Currents from a coil\"\x7d,
  \x7b\"id\":\"ne3\",\"description\":\"Capsules with a seal\"\x7d],
  \"technology_domains\":[\"roads\"],\"query_strategies\":[
  \x7b\"id\":\" A\",\"description\":\"Fibres carrying heat\",\"priority\":\"primary\",
  \"term_families\":[\x7b\"canonical\":\"wire\"\x7d],\"phrases\":[\"steel wire\"]\x7d,
  \x7b\"id\":\"B\",\"description\":\"Coils above the road\",
  \"term_families\":[\x7b\"canonical\":\"coil\"\x7d]\x7d,
  \x7b\"id\":\"C\",\"description\":\"Capsules in the road\",
  \"term_families\":[\x7b\"canonical\":\"seal\"\x7d]\x7d],
  \"confidence_score\":0,\"confidence_reason\":\"Clear text\"\x7d"

def roadStrategy : StrategyDocument :=
  { title := "A road that heals"
    summary := "A road surface that closes its own cracks by heat."
    elements :=
      [⟨"NE1", "Fibres made of steel"⟩, ⟨"NE2", "Currents from a coil"⟩,
        ⟨"NE3", "Capsules with a seal"⟩]
    domains := ["roads"]
    strategies :=
      [⟨"A", "Fibres carrying heat", .primary, [⟨"wire", [], [], []⟩], ["steel wire"], []⟩,
        ⟨"B", "Coils above the road", .tertiary, [⟨"coil", [], [], []⟩], [], []⟩,
        ⟨"C", "Capsules in the road", .tertiary, [⟨"seal", [], [], []⟩], [], []⟩]
    confidence := .zero
    confidenceReason := "Clear text" }

/-- An assessment and a narrative in one, which also names a patent that was never found. -/
def verdictReply : String :=
  "\x7b\"assessments\":[\x7b\"patent_id\":\" P1\",\"relevance\":\"high\"\x7d],
  \"white_space\":[\"Bridges\"],
  \"blocking_risk\":\x7b\"level\":\"high\",\"blocking_patents\":[\"P1 \",\"P7\"]\x7d\x7d"

def roadRow (id : String) : Listing :=
  ⟨id, "", "Coils.", "", .null, [], [], []⟩

/-- The first answer of the search names one patent twice. -/
def roadServices : Services :=
  { model := "road"
    reason
      | 0 => ⟨0, false, .ok roadReply⟩
      | _ => ⟨0, false, .ok verdictReply⟩
    search
      | 0 => ⟨0, false, .ok ⟨false, 0, 0, [roadRow " P1", roadRow "", roadRow "P1 "]⟩⟩
      | _ => ⟨0, false, .ok ⟨false, 0, 0, []⟩⟩ }

def roadReasoner : Reasoner :=
  { clock := .start
    answer := roadServices.reason
    calls := [⟨0, Prompt.strategy (hastyRequest.within hastySettings.pipeline.maxDisclosure)⟩] }

def roadPatent : PatentRecord :=
  ⟨"P1", "", "Coils.", "", none, [], [], [], ["A_narrow_p1"], 1⟩

def roadAssessment : Assessment :=
  ⟨"P1", .high, "", [], .zero⟩

set_option maxRecDepth 4000 in
theorem readReply_road : Stage.readReply Planning.accept roadReply = .ok roadStrategy := by
  refine Stage.readReply_of_toList String.toList_ofList (by decide +kernel) ?_
  rw [Json.read?, String.toList_ofList]
  decide +kernel

theorem planned_road : planned hastySettings hastyRequest roadServices .start =
    (⟨.ok roadStrategy, ⟨1, 0, 0⟩, none⟩, roadReasoner) := by
  have asked (question : String) : Session.ask ⟨.start, roadServices.reason, []⟩ question =
      (.answered roadReply, ⟨.start, roadServices.reason, [⟨0, question⟩]⟩) := rfl
  exact Stage.attempt_of_read (asked _) readReply_road

theorem inOrder_roadStrategy : Plan.inOrder roadStrategy.strategies = roadStrategy.strategies := by
  cbv

theorem sought_road :
    ((sought hastySettings hastyRequest roadServices .start roadStrategy).1.toOption.map (·.patents),
      (sought hastySettings hastyRequest roadServices .start roadStrategy).2.clock) =
    (some [roadPatent], ⟨6667, false, none⟩) := by
  rw [sought, planned_road]
  dsimp only
  rw [Search.run, Plan.ofStrategies, inOrder_roadStrategy]
  decide +kernel

theorem exists_of_toOption_map {ε α β : Type} {result : Except ε α} {f : α → β} {image : β}
    (h : result.toOption.map f = some image) : ∃ value, result = .ok value ∧ f value = image := by
  cases result with
  | error error => cases h
  | ok value => exact ⟨value, rfl, Option.some.inj h⟩

section Found

variable {search : SearchOutcome} (found : search.patents = [roadPatent])

include found

theorem assessed_road :
    (assessed hastySettings hastyRequest roadServices .start roadStrategy
      search).1.output.toOption.map (·.assessments) = some [roadAssessment] := by
  rw [assessed, planned_road, (Prod.mk.inj sought_road).2, found]
  decide +kernel

theorem analysed_road {assessment : AssessmentOutcome}
    (rated : assessment.assessments = [roadAssessment]) :
    (analysed hastySettings hastyRequest roadServices .start roadStrategy search
      assessment).1.output.toOption.map (·.narrative.blockingRisk.patentIds) = some ["P1"] := by
  rw [analysed, assessed, planned_road, (Prod.mk.inj sought_road).2, found, rated]
  decide +kernel

/-- The report on the road is full, and its risk lies in the one patent that was found. -/
theorem full_road {report : Report} {inquiry : Inquiry}
    (completed : Completed hastySettings hastyRequest roadServices .start roadStrategy search report
      inquiry) :
    report.layout = .full ∧ report.landscape.map (·.blockingRisk.patentIds) = some ["P1"] := by
  obtain ⟨assessment, assessing, rated⟩ := exists_of_toOption_map (assessed_road found)
  obtain ⟨analysis, analysing, blocking⟩ := exists_of_toOption_map (analysed_road found rated)
  cases completed with
  | full other story assessed told kind =>
    obtain rfl : assessment = other := Except.ok.inj (assessing.symm.trans assessed)
    obtain rfl : analysis = story := Except.ok.inj (analysing.symm.trans told)
    rw [kind.landscape, Option.map_some, blocking]
    exact ⟨kind.layout, rfl⟩
  | statisticsOnly other error assessed failed =>
    obtain rfl : assessment = other := Except.ok.inj (assessing.symm.trans assessed)
    rw [analysing] at failed
    cases failed
  | unscored error failed =>
    rw [assessing] at failed
    cases failed

end Found

theorem isIntact_run_road : ∃ report,
    (run hastySettings hastyRequest roadServices .start).result = .ok report ∧
      report.landscape.map (·.blockingRisk.patentIds) = some ["P1"] ∧ report.IsIntact := by
  have valid : hastyRequest.defect? hastySettings.pipeline.minDisclosure = none := by
    decide +kernel
  have planning : (planned hastySettings hastyRequest roadServices .start).1.output =
      .ok roadStrategy := by
    rw [planned_road]
  obtain ⟨search, searching, found⟩ := exists_of_toOption_map (Prod.mk.inj sought_road).1
  obtain ⟨assessment, assessing, rated⟩ := exists_of_toOption_map (assessed_road found)
  obtain ⟨analysis, analysing, -⟩ := exists_of_toOption_map (analysed_road found rated)
  obtain ⟨report, ok, completed⟩ := run_of_analysed valid planning searching assessing analysing
  exact ⟨report, ok, (full_road found completed).2, isIntact_run ok⟩

end Inquiry

end PriorArt
