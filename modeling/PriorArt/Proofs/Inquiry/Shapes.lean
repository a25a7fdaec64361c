import PriorArt.Proofs.Inquiry.References
import PriorArt.Proofs.Text.Blank

/-!
# What an inquiry comes to that nobody cancels

1. `Request.Faulty`: the requests that are refused.
2. `Shapes`: the inquiry is refused, or ends with the error of one of its first two stages, or has a
   report of one of three kinds; each exactly when the stages say so, and with the calls and
   milestones of the stages that took place.
3. `shapes_run`: every inquiry that nobody cancels.
-/

namespace PriorArt

/-- The case of the request has no identifier, or the disclosure is too short. -/
def Request.Faulty (request : Request) (leastDisclosure : Nat) : Prop :=
  Text.trim request.caseId = "" ∨ (Text.trim request.disclosure).length < leastDisclosure

theorem Request.defect?_eq_none_iff {request : Request} {leastDisclosure : Nat} :
    request.defect? leastDisclosure = none ↔ ¬ request.Faulty leastDisclosure := by
  have size : Text.size request.disclosure = (Text.trim request.disclosure).length := by
    rw [Text.size, ← Text.toList_trim, String.length_toList]
  unfold Request.defect? Request.Faulty
  rw [← Text.isBlankText_iff, ← size]
  split
  case isTrue blank => exact iff_of_false (Option.some_ne_none _) (not_not_intro (.inl blank))
  case isFalse named =>
    split
    case isTrue short => exact iff_of_false (Option.some_ne_none _) (not_not_intro (.inr short))
    case isFalse long => exact iff_of_true rfl (not_or_intro named long)

namespace Inquiry

/-- Nobody cancels the inquiry. -/
structure NeverCancelled (services : Services) (clock : Clock) : Prop where
  uncancelled : clock.cancelled = false
  unset : clock.cancelAt = none
  reasoning : ∀ n, (services.reason n).cancels = false
  searching : ∀ n, (services.search n).cancels = false

section Shapes

variable (settings : RunSettings) (request : Request) (services : Services) (clock : Clock)

/-- What an inquiry comes to, by what its stages come to. -/
structure Shapes (inquiry : Inquiry) : Prop where
  refused_iff : (∃ defect, inquiry.result = .error (.invalidRequest defect)) ↔
    request.Faulty settings.pipeline.minDisclosure
  refused : ∀ defect, inquiry.result = .error (.invalidRequest defect) →
    inquiry.milestones = [] ∧ inquiry.reasonerCalls = [] ∧ inquiry.searchCalls = []
  withoutStrategy_iff : (∃ error, inquiry.result = .error (.inStage .strategy error)) ↔
    ¬ request.Faulty settings.pipeline.minDisclosure ∧
      ∃ error, (planned settings request services clock).1.output = .error error
  withoutStrategy : ∀ error, inquiry.result = .error (.inStage .strategy error) →
    (planned settings request services clock).1.output = .error error ∧
      inquiry.milestones = [.strategyBegun] ∧
      inquiry.reasonerCalls = (planned settings request services clock).2.calls ∧
      inquiry.searchCalls = []
  withoutSearch_iff : (∃ error, inquiry.result = .error (.inStage .search error)) ↔
    ¬ request.Faulty settings.pipeline.minDisclosure ∧
      ∃ strategy error, (planned settings request services clock).1.output = .ok strategy ∧
        (sought settings request services clock strategy).1 = .error error
  withoutSearch : ∀ error, inquiry.result = .error (.inStage .search error) →
    ∃ strategy, (planned settings request services clock).1.output = .ok strategy ∧
      (sought settings request services clock strategy).1 = .error error ∧
      inquiry.milestones = [.strategyBegun, .strategyReady, .searchBegun] ∧
      inquiry.reasonerCalls = (planned settings request services clock).2.calls ∧
      inquiry.searchCalls = (sought settings request services clock strategy).2.calls
  reported_iff : (∃ report, inquiry.result = .ok report) ↔
    ¬ request.Faulty settings.pipeline.minDisclosure ∧
      ∃ strategy search, (planned settings request services clock).1.output = .ok strategy ∧
        (sought settings request services clock strategy).1 = .ok search
  reported : ∀ report, inquiry.result = .ok report →
    ∃ strategy search, (planned settings request services clock).1.output = .ok strategy ∧
      (sought settings request services clock strategy).1 = .ok search ∧
      Completed settings request services clock strategy search report inquiry ∧
      inquiry.searchCalls = (sought settings request services clock strategy).2.calls

end Shapes

variable {settings : RunSettings} {request : Request} {services : Services} {clock : Clock}

theorem result_ne_cancelled (valid : request.defect? settings.pipeline.minDisclosure = none)
    (never : NeverCancelled services clock) :
    (run settings request services clock).result ≠ .error .cancelled := by
  have live : clock.Live :=
    { uncancelled := never.uncancelled
      inTime := by
        rw [never.unset]
        rintro moment ⟨⟩ }
  have cases : Interrupted settings request services clock (run settings request services clock)
        (run settings request services.calm clock.calm) ∨
      Uninterrupted services clock (run settings request services clock)
        (run settings request services.calm clock.calm) := interrupted_or_not valid live
  rcases cases with cut | uncut
  · rcases cut.cause with cancelled | ⟨moment, set, -⟩ | ⟨n, -, cancels⟩ | ⟨n, -, cancels⟩
    · exact absurd cancelled (never.uncancelled ▸ Bool.false_ne_true)
    · rw [never.unset] at set
      cases set
    · exact absurd cancels (never.reasoning n ▸ Bool.false_ne_true)
    · exact absurd cancels (never.searching n ▸ Bool.false_ne_true)
  · exact uncut.result

theorem tagged_eq_inStage {stage : Stage} {error : RunError}
    (kept : (.error (error.tagged stage) : Except RunError Report) ≠ .error .cancelled) :
    error.tagged stage = .inStage stage error := by
  unfold RunError.tagged at kept ⊢
  split
  case isTrue cancelled =>
    rw [if_pos cancelled] at kept
    exact absurd rfl kept
  case isFalse => rfl

theorem shapes_of_defect {defect : RequestDefect}
    (fault : request.defect? settings.pipeline.minDisclosure = some defect) :
    Shapes settings request services clock (run settings request services clock) := by
  have faulty : request.Faulty settings.pipeline.minDisclosure := by
    refine Classical.byContradiction fun valid => ?_
    rw [Request.defect?_eq_none_iff.2 valid] at fault
    cases fault
  rw [run_of_defect fault]
  exact
    { refused_iff := iff_of_true ⟨defect, rfl⟩ faulty
      refused := fun _ _ => ⟨rfl, rfl, rfl⟩
      withoutStrategy_iff := iff_of_false (by rintro ⟨_, ⟨⟩⟩) fun failed => failed.1 faulty
      withoutStrategy := by rintro _ ⟨⟩
      withoutSearch_iff := iff_of_false (by rintro ⟨_, ⟨⟩⟩) fun failed => failed.1 faulty
      withoutSearch := by rintro _ ⟨⟩
      reported_iff := iff_of_false (by rintro ⟨_, ⟨⟩⟩) fun found => found.1 faulty
      reported := by rintro _ ⟨⟩ }

section Valid

variable (valid : request.defect? settings.pipeline.minDisclosure = none)
  (going : (run settings request services clock).result ≠ .error .cancelled)

include valid going

theorem shapes_of_planned_error {error : RunError}
    (failed : (planned settings request services clock).1.output = .error error) :
    Shapes settings request services clock (run settings request services clock) := by
  rw [run_of_planned_error valid failed] at going ⊢
  rw [tagged_eq_inStage going]
  have sound := Request.defect?_eq_none_iff.1 valid
  exact
    { refused_iff := iff_of_false (by rintro ⟨_, ⟨⟩⟩) sound
      refused := by rintro _ ⟨⟩
      withoutStrategy_iff := iff_of_true ⟨error, rfl⟩ ⟨sound, error, failed⟩
      withoutStrategy := by
        rintro other ⟨⟩
        exact ⟨failed, rfl, rfl, rfl⟩
      withoutSearch_iff := by
        refine iff_of_false (by rintro ⟨_, ⟨⟩⟩) ?_
        rintro ⟨-, strategy, other, planning, -⟩
        rw [failed] at planning
        cases planning
      withoutSearch := by rintro _ ⟨⟩
      reported_iff := by
        refine iff_of_false (by rintro ⟨_, ⟨⟩⟩) ?_
        rintro ⟨-, strategy, search, planning, -⟩
        rw [failed] at planning
        cases planning
      reported := by rintro _ ⟨⟩ }

variable {strategy : StrategyDocument}
  (planning : (planned settings request services clock).1.output = .ok strategy)

include planning

theorem shapes_of_sought_error {error : RunError}
    (failed : (sought settings request services clock strategy).1 = .error error) :
    Shapes settings request services clock (run settings request services clock) := by
  rw [run_of_sought_error valid planning failed] at going ⊢
  rw [tagged_eq_inStage going]
  have sound := Request.defect?_eq_none_iff.1 valid
  exact
    { refused_iff := iff_of_false (by rintro ⟨_, ⟨⟩⟩) sound
      refused := by rintro _ ⟨⟩
      withoutStrategy_iff := by
        refine iff_of_false (by rintro ⟨_, ⟨⟩⟩) ?_
        rintro ⟨-, other, lost⟩
        rw [planning] at lost
        cases lost
      withoutStrategy := by rintro _ ⟨⟩
      withoutSearch_iff :=
        iff_of_true ⟨error, rfl⟩ ⟨sound, strategy, error, planning, failed⟩
      withoutSearch := by
        rintro other ⟨⟩
        exact ⟨strategy, planning, failed, rfl, rfl, rfl⟩
      reported_iff := by
        refine iff_of_false (by rintro ⟨_, ⟨⟩⟩) ?_
        rintro ⟨-, other, search, same, searching⟩
        rw [planning] at same
        cases same
        rw [failed] at searching
        cases searching
      reported := by rintro _ ⟨⟩ }

theorem shapes_of_sought {search : SearchOutcome}
    (searching : (sought settings request services clock strategy).1 = .ok search) :
    Shapes settings request services clock (run settings request services clock) := by
  have sound := Request.defect?_eq_none_iff.1 valid
  have sent : (run settings request services clock).searchCalls =
      (sought settings request services clock strategy).2.calls := by
    rw [run_of_sought valid planning searching, searchCalls_assess]
    rfl
  rcases completed_or_cancelled valid planning searching with ⟨report, ok, completed⟩ | cancelled
  · exact
      { refused_iff := iff_of_false (by rw [ok]; rintro ⟨_, ⟨⟩⟩) sound
        refused := by rw [ok]; rintro _ ⟨⟩
        withoutStrategy_iff := by
          rw [ok]
          refine iff_of_false (by rintro ⟨_, ⟨⟩⟩) ?_
          rintro ⟨-, other, lost⟩
          rw [planning] at lost
          cases lost
        withoutStrategy := by rw [ok]; rintro _ ⟨⟩
        withoutSearch_iff := by
          rw [ok]
          refine iff_of_false (by rintro ⟨_, ⟨⟩⟩) ?_
          rintro ⟨-, other, error, same, lost⟩
          rw [planning] at same
          cases same
          rw [searching] at lost
          cases lost
        withoutSearch := by rw [ok]; rintro _ ⟨⟩
        reported_iff :=
          iff_of_true ⟨report, ok⟩ ⟨sound, strategy, search, planning, searching⟩
        reported := by
          intro other same
          obtain rfl : report = other := Except.ok.inj (ok.symm.trans same)
          exact ⟨strategy, search, planning, searching, completed, sent⟩ }
  · exact absurd cancelled going

end Valid

/-- **The shapes of an inquiry.** Every inquiry that nobody cancels. -/
theorem shapes_run (settings : RunSettings) (request : Request) (services : Services)
    (clock : Clock) (never : NeverCancelled services clock) :
    Shapes settings request services clock (run settings request services clock) := by
  cases valid : request.defect? settings.pipeline.minDisclosure with
  | some defect => exact shapes_of_defect valid
  | none =>
    have going := result_ne_cancelled valid never
    cases planning : (planned settings request services clock).1.output with
    | error error => exact shapes_of_planned_error valid going planning
    | ok strategy =>
      cases searching : (sought settings request services clock strategy).1 with
      | error error => exact shapes_of_sought_error valid going planning searching
      | ok search => exact shapes_of_sought valid going planning searching

theorem never_cancelled_road : NeverCancelled roadServices .start where
  uncancelled := rfl
  unset := rfl
  reasoning := by rintro (_ | n) <;> rfl
  searching := by rintro (_ | n) <;> rfl

/-- Two inquiries of the hasty client: one that has no strategy, and one that has a full report. -/
theorem shapes_run_hasty :
    (NeverCancelled hastyServices .start ∧
      (run hastySettings hastyRequest hastyServices .start).result =
        .error (.inStage .strategy (.provider .unreadableBody)) ∧
      (run hastySettings hastyRequest hastyServices .start).searchCalls = []) ∧
    NeverCancelled roadServices .start ∧ ∃ report search,
      (run hastySettings hastyRequest roadServices .start).result = .ok report ∧
        report.layout = .full ∧
        Completed hastySettings hastyRequest roadServices .start roadStrategy search report
          (run hastySettings hastyRequest roadServices .start) := by
  have sound : ¬ hastyRequest.Faulty hastySettings.pipeline.minDisclosure :=
    Request.defect?_eq_none_iff.1 (by decide +kernel)
  constructor
  · have never : NeverCancelled hastyServices .start := ⟨rfl, rfl, fun _ => rfl, fun _ => rfl⟩
    have shapes := shapes_run hastySettings hastyRequest hastyServices .start never
    have failed : (planned hastySettings hastyRequest hastyServices .start).1.output =
        .error (.provider .unreadableBody) := rfl
    obtain ⟨error, result⟩ := shapes.withoutStrategy_iff.2 ⟨sound, _, failed⟩
    obtain ⟨same, -, -, unsent⟩ := shapes.withoutStrategy error result
    obtain rfl : error = .provider .unreadableBody := Except.error.inj (same.symm.trans failed)
    exact ⟨never, result, unsent⟩
  · have shapes := shapes_run hastySettings hastyRequest roadServices .start never_cancelled_road
    have planning : (planned hastySettings hastyRequest roadServices .start).1.output =
        .ok roadStrategy := by
      rw [planned_road]
    obtain ⟨search, searching, found⟩ := exists_of_toOption_map (Prod.mk.inj sought_road).1
    obtain ⟨report, ok⟩ := shapes.reported_iff.2 ⟨sound, roadStrategy, search, planning, searching⟩
    obtain ⟨strategy, others, planned, sought, completed, -⟩ := shapes.reported report ok
    obtain rfl : roadStrategy = strategy := Except.ok.inj (planning.symm.trans planned)
    obtain rfl : search = others := Except.ok.inj (searching.symm.trans sought)
    exact ⟨never_cancelled_road, report, search, ok, (full_road found completed).1, completed⟩

end Inquiry

end PriorArt
