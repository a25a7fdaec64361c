import PriorArt.Proofs.Inquiry.Shapes
import PriorArt.Proofs.Inquiry.Trace

/-!
# The disclosure that an inquiry reads

A disclosure is long enough if it is so once it is trimmed, but it is cut as it was submitted.

1. `Request.IsHanded`: the request that is handed to the stages, and how much of the disclosure is
   left in it (`Request.isHanded_within`).
2. `Stage.AsksOnly`: a stage asks its own prompt only (`Stage.asksOnly_attempt`).
3. `Inquiry.disclosure_run`: what the first stage asks, and what a report says of the disclosure.
-/

namespace PriorArt

/-! ## The request that is handed on -/

/-- The request is handed on with so many characters of its disclosure at most. -/
structure Request.IsHanded (request handed : Request) (most : Nat) : Prop where
  caseId : handed.caseId = request.caseId
  priorContext : handed.priorContext = request.priorContext
  start : handed.disclosure.toList <+: request.disclosure.toList
  length : handed.disclosure.length = min request.disclosure.length most
  whole : request.disclosure.length ≤ most → handed = request
  /-- What is left of the disclosure has some size exactly if two characters that are so far apart
  are not blank and are not cut off. -/
  size : ∀ n, n ≤ Text.size handed.disclosure ↔ n = 0 ∨ ∃ first last,
    Text.IsWritten request.disclosure.toList first ∧
      Text.IsWritten request.disclosure.toList last ∧
      first ≤ last ∧ last < most ∧ n ≤ last + 1 - first

theorem Request.isOverlong_iff {request : Request} {most : Nat} :
    request.isOverlong most = true ↔ most < request.disclosure.length :=
  decide_eq_true_iff

/-- The first characters of the disclosure are handed on, all of them if they are not too many. -/
theorem Request.toList_within (request : Request) (most : Nat) :
    (request.within most).disclosure.toList = request.disclosure.toList.take most := by
  unfold within
  by_cases overlong : request.isOverlong most = true
  · rw [if_pos overlong, cut, String.toList_ofList]
  · have fits : request.disclosure.toList.length ≤ most := by
      rw [String.length_toList]
      exact Nat.le_of_not_lt (mt isOverlong_iff.2 overlong)
    rw [if_neg overlong, List.take_of_length_le fits]

theorem Request.isHanded_within (request : Request) (most : Nat) :
    request.IsHanded (request.within most) most where
  caseId := by
    unfold within
    split <;> rfl
  priorContext := by
    unfold within
    split <;> rfl
  start := by
    rw [toList_within]
    exact List.take_prefix ..
  length := by
    rw [← String.length_toList, toList_within, List.length_take, String.length_toList, Nat.min_comm]
  whole := by
    intro fits
    unfold within
    rw [if_neg (mt isOverlong_iff.1 (Nat.not_lt.2 fits))]
  size := by
    intro n
    rw [Text.size, Text.le_length_trimList_iff, toList_within]
    simp only [Text.isWritten_take]
    refine or_congr_right ?_
    constructor
    · rintro ⟨first, last, ⟨-, writtenFirst⟩, ⟨inside, writtenLast⟩, inOrder, apart⟩
      exact ⟨first, last, writtenFirst, writtenLast, inOrder, inside, apart⟩
    · rintro ⟨first, last, writtenFirst, writtenLast, inOrder, inside, apart⟩
      exact ⟨first, last, ⟨Nat.lt_of_le_of_lt inOrder inside, writtenFirst⟩,
        ⟨inside, writtenLast⟩, inOrder, apart⟩

theorem Prompt.exists_strategy_eq (request : Request) :
    ∃ before, strategy request = before ++ request.disclosure := by
  refine ⟨concat [opening, strategyInstructions,
    ((request.priorContext.bind (·.concerns)).map concerns).getD "",
    ((request.priorContext.bind (·.extraction)).map extraction).getD "",
    "\nRequired output schema:\n", strategySchema, "\n\nDISCLOSURE:\n"], ?_⟩
  simp only [strategy, concat, String.join_cons, String.join_nil, String.append_assoc,
    String.append_empty]

/-! ## What a stage asks -/

namespace Stage

/-- A session came from one to the other by calls with the prompt, each with feedback or without. -/
def AsksOnly (prompt : String) (before after : Reasoner) : Prop :=
  ∃ calls, after.calls = before.calls ++ calls ∧
    ∀ call ∈ calls, ∃ feedback, call.question = promptWith prompt feedback

namespace AsksOnly

variable {prompt : String} {before between after : Reasoner}

theorem trans (first : AsksOnly prompt before between) (second : AsksOnly prompt between after) :
    AsksOnly prompt before after := by
  obtain ⟨calls, made, prompts⟩ := first
  obtain ⟨others, madeThen, promptsThen⟩ := second
  refine ⟨calls ++ others, ?_, List.forall_mem_append.2 ⟨prompts, promptsThen⟩⟩
  rw [madeThen, made, List.append_assoc]

theorem of_ask {feedback : Option String} {reply : Reply String}
    (asked : before.ask (promptWith prompt feedback) = (reply, after)) :
    AsksOnly prompt before after := by
  rcases Session.calls_of_ask asked with ⟨-, same⟩ | made
  · exact ⟨[], by rw [same, List.append_nil], by simp⟩
  · exact ⟨_, made, by simp⟩

theorem of_sleep {duration : Nat} {reached : Bool}
    (slept : before.sleep duration = (reached, after)) : AsksOnly prompt before after :=
  ⟨[], by rw [Session.calls_of_sleep slept, List.append_nil], by simp⟩

end AsksOnly

theorem asksOnly_attempt {α : Type} (stage : Stage) (base : Nat) (prompt : String)
    (read : String → Except ContentDefect α) (number : Nat) (feedback : Option String)
    (metrics : Metrics) (left : Nat) (reasoner : Reasoner) :
    AsksOnly prompt reasoner
      (attempt stage base prompt read number feedback metrics left reasoner).2 := by
  fun_induction attempt stage base prompt read number feedback metrics left reasoner with
  | case1 _ _ _ _ _ _ _ asked => exact .of_ask asked
  | case2 _ _ _ _ _ _ _ asked _ _ _ _ slept ih =>
    exact (AsksOnly.of_ask asked).trans ((AsksOnly.of_sleep slept).trans ih)
  | case3 _ _ _ _ _ _ _ asked _ _ _ _ slept =>
    exact (AsksOnly.of_ask asked).trans (.of_sleep slept)
  | case4 _ _ _ _ _ _ _ _ asked => exact .of_ask asked
  | case5 _ _ _ _ _ _ _ _ asked => exact .of_ask asked
  | case6 _ _ _ _ _ _ _ asked _ _ _ ih => exact (AsksOnly.of_ask asked).trans ih
  | case7 _ _ _ _ _ _ _ asked => exact .of_ask asked

end Stage

namespace Inquiry

/-! ## What a report says of the disclosure -/

section Report

variable {settings : RunSettings} {request : Request} {services : Services} {clock : Clock}
  {report : Report}

/-- No entry but the first one tells of the disclosure. -/
theorem inputTruncated_not_mem {strategy : StrategyDocument} {search : SearchOutcome}
    {counted : AssessmentOutcome} {ending : List TraceEntry}
    (concluded : Concluded settings request services clock strategy search report counted ending)
    (maxPatents maxAssessed fullSize keptSize : Nat) :
    .inputTruncated fullSize keptSize ∉ searchTrace maxPatents search ∧
      .inputTruncated fullSize keptSize ∉ assessmentTrace maxAssessed counted ∧
      .inputTruncated fullSize keptSize ∉ ending := by
  refine ⟨?_, ?_, ?_⟩
  · unfold searchTrace
    split <;> simp
  · unfold assessmentTrace
    simp only [List.mem_append, not_or]
    refine ⟨⟨?_, ?_⟩, ?_⟩ <;> split <;> simp
  · cases concluded with
    | full => simp
    | statisticsOnly => simp
    | unscored => simp

/-- What a report says of the disclosure of the request that was submitted. -/
structure TellsOf (report : Report) (request handed : Request) (most : Nat) : Prop where
  handed : report.request = handed
  flag : report.metadata.inputTruncated = true ↔ most < request.disclosure.length
  entry : ∀ fullSize keptSize, .inputTruncated fullSize keptSize ∈ report.trace ↔
    most < request.disclosure.length ∧ fullSize = request.disclosure.length ∧ keptSize = most

theorem tellsOf_of_result_eq_ok
    (ok : (run settings request services clock).result = .ok report) :
    TellsOf report request (request.within settings.pipeline.maxDisclosure)
      settings.pipeline.maxDisclosure := by
  obtain ⟨counted, ending, recorded, concluded⟩ := concluded_of_result_eq_ok ok
  refine ⟨recorded.handed, ?_, ?_⟩
  · rw [recorded.inputTruncated]
    exact Request.isOverlong_iff
  · intro fullSize keptSize
    obtain ⟨notSearch, notAssessment, notEnding⟩ := inputTruncated_not_mem concluded
      settings.search.maxPatents settings.assessment.maxAssessed fullSize keptSize
    rw [recorded.trace, ← Request.isOverlong_iff]
    simp only [List.mem_append, notSearch, notAssessment, notEnding, or_false]
    unfold truncationTrace
    by_cases overlong : request.isOverlong settings.pipeline.maxDisclosure = true
    · simp [overlong]
    · simp [overlong]

end Report

/-- **The disclosure.** An inquiry that is not refused asks its first stage about the first
characters of the disclosure, as many as are allowed, and about the whole of it if it fits. What is
asked about may be too short once it is trimmed, but only if the disclosure was cut. -/
theorem disclosure_run (settings : RunSettings) (request : Request) (services : Services)
    (clock : Clock) (sound : ¬ request.Faulty settings.pipeline.minDisclosure) :
    let inquiry := run settings request services clock
    let planning := planned settings request services clock
    ∃ handed, request.IsHanded handed settings.pipeline.maxDisclosure ∧
      (request.disclosure.length ≤ settings.pipeline.maxDisclosure →
        settings.pipeline.minDisclosure ≤ Text.size handed.disclosure) ∧
      planning.2.calls <+: inquiry.reasonerCalls ∧
      (∀ call ∈ planning.2.calls, ∃ before feedback,
        call.question = Stage.promptWith (before ++ handed.disclosure) feedback) ∧
      ∀ report, inquiry.result = .ok report →
        TellsOf report request handed settings.pipeline.maxDisclosure := by
  intro inquiry planning
  have valid := Request.defect?_eq_none_iff.2 sound
  have isHanded := request.isHanded_within settings.pipeline.maxDisclosure
  refine ⟨_, isHanded, ?_, (extends_run_planned valid).1, ?_, ?_⟩
  · intro fits
    rw [isHanded.whole fits]
    have long := Nat.le_of_not_lt (not_or.1 sound).2
    rwa [← String.length_toList, Text.toList_trim] at long
  · obtain ⟨before, ends⟩ :=
      Prompt.exists_strategy_eq (request.within settings.pipeline.maxDisclosure)
    obtain ⟨calls, made, prompts⟩ : Stage.AsksOnly (Prompt.strategy _) _ planning.2 :=
      Stage.asksOnly_attempt ..
    intro call member
    rw [made, List.nil_append] at member
    obtain ⟨feedback, asked⟩ := prompts call member
    exact ⟨before, feedback, ends ▸ asked⟩
  · intro report ok
    exact tellsOf_of_result_eq_ok ok

/-! ### A disclosure that begins with blank space -/

def narrowSettings : RunSettings :=
  { hastySettings with pipeline := { hastySettings.pipeline with maxDisclosure := 20 } }

/-- The disclosure has twenty blank characters before the first that is not. -/
def indentedRequest : Request :=
  { hastyRequest with disclosure := "                    A seal that heals." }

theorem sound_indented : ¬ indentedRequest.Faulty narrowSettings.pipeline.minDisclosure :=
  Request.defect?_eq_none_iff.1 (by decide +kernel)

theorem disclosure_run_indented :
    ¬ indentedRequest.Faulty narrowSettings.pipeline.minDisclosure ∧
      ∃ handed, indentedRequest.IsHanded handed 20 ∧ handed.disclosure.length = 20 := by
  obtain ⟨handed, isHanded, -⟩ :=
    disclosure_run narrowSettings indentedRequest hastyServices .start sound_indented
  have long : indentedRequest.disclosure.length = 38 := by decide
  refine ⟨sound_indented, handed, isHanded, ?_⟩
  rw [isHanded.length, long]
  rfl

/-- All that the first stage is asked about is blank, although the disclosure is long enough and more
characters are allowed than are needed. -/
theorem blank_disclosure_indented :
    narrowSettings.pipeline.minDisclosure < narrowSettings.pipeline.maxDisclosure ∧
      ¬ indentedRequest.Faulty narrowSettings.pipeline.minDisclosure ∧
      (run narrowSettings indentedRequest hastyServices .start).reasonerCalls.map (·.question) =
        [Prompt.strategy { indentedRequest with disclosure := "                    " }] ∧
      Text.size "                    " = 0 := by
  refine ⟨by decide, sound_indented, ?_, by decide +kernel⟩
  have valid := Request.defect?_eq_none_iff.2 sound_indented
  have failed : (planned narrowSettings indentedRequest hastyServices .start).1.output =
      .error (.provider .unreadableBody) := rfl
  have cut : indentedRequest.within narrowSettings.pipeline.maxDisclosure =
      { indentedRequest with disclosure := "                    " } := by
    decide +kernel
  rw [run_of_planned_error valid failed]
  show [Prompt.strategy (indentedRequest.within narrowSettings.pipeline.maxDisclosure)] = _
  rw [cut]

end Inquiry

end PriorArt
