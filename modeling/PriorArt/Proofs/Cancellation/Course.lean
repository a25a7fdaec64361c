import PriorArt.Proofs.Cancellation.Search
import PriorArt.Proofs.Inquiry.Stages

/-!
# The course of an inquiry that is cancelled

What follows the search follows the calm session with the reasoning service, too: the assessment and
what comes after it (`follows_assess`) either end as they do when nobody cancels, or with the error
that the inquiry was cancelled.
-/

namespace PriorArt

open Session

namespace Inquiry

def Course.calm (course : Course) : Course :=
  { course with
    reasoner := course.reasoner.calm
    service := course.service.calm }

/-- An inquiry as what came of a session with the reasoning service. -/
def ofReasoner (reasoner : Reasoner) (inquiry : Inquiry) :
    (Except RunError Report × List Milestone × List (Call TextQuery)) × Reasoner :=
  ((inquiry.result, inquiry.milestones, inquiry.searchCalls),
    ⟨inquiry.clock, reasoner.answer, inquiry.reasonerCalls⟩)

/-- It does not matter which of two sessions with the same answers is named. -/
theorem ofReasoner_of_extends {s t : Reasoner} (step : Extends s t) (inquiry : Inquiry) :
    ofReasoner s inquiry = ofReasoner t inquiry := by
  unfold ofReasoner
  rw [step.answer]

/-- What an inquiry came to, as what came of its session with the reasoning service. -/
abbrev Course.ended (course : Course) (inquiry : Inquiry) :
    (Except RunError Report × List Milestone × List (Call TextQuery)) × Reasoner :=
  ofReasoner course.reasoner inquiry

/-- What follows a stage ends with a cancelled one, and follows the calm session after any other. -/
structure Heeds {α : Type} (after : StageRun α → Course → Inquiry) : Prop where
  halts : ∀ stage (course : Course), GaveUp stage.output →
    (after stage course).result = .error .cancelled ∧
      (course.ended (after stage course)).2 = course.reasoner
  further : ∀ stage (course : Course), Extends course.reasoner (course.ended (after stage course)).2
  rest : ∀ stage (course : Course), ¬ GaveUp stage.output → course.reasoner.Live →
    Follows (fun inquiry => inquiry.1 = .error .cancelled) course.reasoner (course.ended (after stage course))
      (course.calm.ended (after stage course.calm))

section Heeds

variable {α : Type} {after : StageRun α → Course → Inquiry}
  {stage : Reasoner → StageRun α × Reasoner}

theorem Heeds.extends_stage (heeds : Heeds after)
    (further : ∀ reasoner, Extends reasoner (stage reasoner).2) (course : Course) :
    Extends course.reasoner (course.ended
      (after (stage course.reasoner).1 { course with reasoner := (stage course.reasoner).2 })).2 := by
  rw [Course.ended, ofReasoner_of_extends (further course.reasoner)]
  exact (further course.reasoner).trans (heeds.further (stage course.reasoner).1
    { course with reasoner := (stage course.reasoner).2 })

theorem Heeds.follows_stage (heeds : Heeds after)
    (further : ∀ reasoner, Extends reasoner (stage reasoner).2)
    (follows : ∀ {reasoner : Reasoner}, reasoner.Live →
      Follows (fun run => GaveUp run.output) reasoner (stage reasoner) (stage reasoner.calm))
    (course : Course) (live : course.reasoner.Live) :
    Follows (fun inquiry => inquiry.1 = .error .cancelled) course.reasoner
      (course.ended
        (after (stage course.reasoner).1 { course with reasoner := (stage course.reasoner).2 }))
      (course.calm.ended
        (after (stage course.calm.reasoner).1
          { course.calm with reasoner := (stage course.calm.reasoner).2 })) := by
  rw [Course.ended, Course.ended, ofReasoner_of_extends (further course.reasoner),
    ofReasoner_of_extends (further course.calm.reasoner)]
  refine (follows live).bind
    (fun run reasoner => ofReasoner reasoner (after run { course with reasoner }))
    (fun run reasoner => ofReasoner reasoner (after run { course.calm with reasoner })) ?_ ?_ ?_
  · intro run reasoner gone
    exact heeds.halts run { course with reasoner } gone
  · intro run reasoner
    exact heeds.further run { course.calm with reasoner }
  · intro run reasoner going reasonerLive
    exact heeds.rest run { course with reasoner } going reasonerLive

end Heeds

variable (settings : RunSettings) (request : Request) (strategy : StrategyDocument)
  (search : SearchOutcome)

/-- After the last stage nobody is called. -/
theorem session_afterLandscape (assessment : AssessmentOutcome)
    (stage : StageRun LandscapeAnalysis) (course : Course) :
    (course.ended (afterLandscape request strategy search assessment stage course)).2 =
      course.reasoner := by
  unfold afterLandscape
  dsimp only
  split
  · rfl
  · split
    · rfl
    · rfl

theorem heeds_afterLandscape (assessment : AssessmentOutcome) :
    Heeds (afterLandscape request strategy search assessment) where
  halts := by
    rintro ⟨error | analysis, metrics, partialOutput⟩ course gone
    · refine ⟨?_, session_afterLandscape ..⟩
      have cancelled : error.isCancelled = true := gone
      unfold afterLandscape
      dsimp only
      rw [if_pos cancelled]
      rfl
    · exact absurd gone (gaveUp_ok analysis)
  further := by
    intro stage course
    rw [session_afterLandscape]
    exact .refl course.reasoner
  rest := by
    rintro ⟨error | analysis, metrics, partialOutput⟩ course going live
    · have kept : ¬ error.isCancelled = true := going
      unfold afterLandscape
      dsimp only
      rw [if_neg kept, if_neg kept]
      exact .done (by rintro ⟨⟩) (.refl live)
    · exact .done (by rintro ⟨⟩) (.refl live)

theorem extends_analyzeLandscape (assessment : AssessmentOutcome) (course : Course) :
    Extends course.reasoner
      (course.ended (analyzeLandscape settings request strategy search assessment course)).2 :=
  (heeds_afterLandscape request strategy search assessment).extends_stage
    (Analysis.extends_run _ _ _ _) (course.reach .landscapeBegun)

theorem follows_analyzeLandscape (assessment : AssessmentOutcome) (course : Course)
    (live : course.reasoner.Live) :
    Follows (fun inquiry => inquiry.1 = .error .cancelled) course.reasoner
      (course.ended (analyzeLandscape settings request strategy search assessment course))
      (course.calm.ended
        (analyzeLandscape settings request strategy search assessment course.calm)) :=
  (heeds_afterLandscape request strategy search assessment).follows_stage
    (Analysis.extends_run _ _ _ _) (Analysis.follows_run _ _ _ _) (course.reach .landscapeBegun) live

theorem heeds_afterAssessment : Heeds (afterAssessment settings request strategy search) where
  halts := by
    rintro ⟨error | assessment, metrics, partialOutput⟩ course gone
    · have cancelled : error.isCancelled = true := gone
      unfold afterAssessment
      dsimp only
      rw [if_pos cancelled]
      exact ⟨rfl, rfl⟩
    · exact absurd gone (gaveUp_ok assessment)
  further := by
    rintro ⟨error | assessment, metrics, partialOutput⟩ course
    · unfold afterAssessment
      dsimp only
      split
      · exact .refl course.reasoner
      · cases partialOutput with
        | none => exact .refl course.reasoner
        | some counted => exact .refl course.reasoner
    · exact extends_analyzeLandscape settings request strategy search assessment
        (((course.executed .assessment metrics).noted settings.assessment.maxAssessed
          assessment).reach (.assessmentReady assessment.assessments.length))
  rest := by
    rintro ⟨error | assessment, metrics, partialOutput⟩ course going live
    · have kept : ¬ error.isCancelled = true := going
      unfold afterAssessment
      dsimp only
      rw [if_neg kept, if_neg kept]
      cases partialOutput with
      | none => exact .done (by rintro ⟨⟩) (.refl live)
      | some counted => exact .done (by rintro ⟨⟩) (.refl live)
    · exact follows_analyzeLandscape settings request strategy search assessment
        (((course.executed .assessment metrics).noted settings.assessment.maxAssessed
          assessment).reach (.assessmentReady assessment.assessments.length)) live

theorem extends_assess (course : Course) :
    Extends course.reasoner (course.ended (assess settings request strategy search course)).2 :=
  (heeds_afterAssessment settings request strategy search).extends_stage
    (Assess.extends_run _ _ _ _) (course.reach .assessmentBegun)

theorem follows_assess {course : Course} (live : course.reasoner.Live) :
    Follows (fun inquiry => inquiry.1 = .error .cancelled) course.reasoner
      (course.ended (assess settings request strategy search course))
      (course.calm.ended (assess settings request strategy search course.calm)) :=
  (heeds_afterAssessment settings request strategy search).follows_stage
    (Assess.extends_run _ _ _ _) (Assess.follows_run _ _ _ _) (course.reach .assessmentBegun) live

/-- The search is over before the assessment begins. -/
theorem searchCalls_assess (course : Course) :
    (assess settings request strategy search course).searchCalls = course.service.calls := by
  unfold assess afterAssessment
  dsimp only
  split
  · unfold analyzeLandscape afterLandscape
    dsimp only
    split
    · rfl
    · split
      · rfl
      · rfl
  · split
    · rfl
    · cases (Assess.run _ _ _ _ _).1.partialOutput with
      | none => rfl
      | some counted => rfl

end Inquiry

end PriorArt
