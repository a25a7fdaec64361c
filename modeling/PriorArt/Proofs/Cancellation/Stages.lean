import PriorArt.Proofs.Cancellation.Session
import PriorArt.Proofs.Replies
import PriorArt.Run.Search

/-!
# The stages of a run that is cancelled

Each stage of an inquiry extends its session, and follows the calm one: it does what it does when
nobody cancels, or its result is that the run was cancelled.

1. `Stage.follows_run`: the strategy and the narrative.
2. `Assess.follows_run`: the batches of the assessment.
3. `Search.follows_run`: the queries of the search, with the waits of the rate gate.
-/

namespace PriorArt

open Session

def GaveUp {α : Type} : Except RunError α → Prop
  | .ok _ => False
  | .error error => error.isCancelled = true

@[simp] theorem gaveUp_ok {α : Type} (value : α) : ¬ GaveUp (.ok value) := id

theorem gaveUp_map {α β : Type} (f : α → β) (result : Except RunError α) :
    GaveUp (result.map f) ↔ GaveUp result := by
  cases result
  · exact Iff.rfl
  · exact Iff.rfl

/-! ## Asking until a reply is accepted -/

namespace Stage

variable {α : Type} (stage : Stage) (base : Nat) (prompt : String)
  (read : String → Except ContentDefect α)

theorem extends_ask_attempt (number : Nat) (feedback : Option String) (metrics : Metrics)
    (left : Nat) (reasoner : Reasoner) :
    Extends (reasoner.ask (promptWith prompt feedback)).2
      (attempt stage base prompt read number feedback metrics left reasoner).2 := by
  fun_induction attempt stage base prompt read number feedback metrics left reasoner with
  | case1 _ _ _ _ _ _ _ asked => rw [asked]; exact .refl _
  | case2 _ _ _ _ _ _ _ asked _ _ _ _ slept ih =>
    rw [asked]
    exact ((Extends.ofSleep slept).trans (Session.extends_ask _ _)).trans ih
  | case3 _ _ _ _ _ _ _ asked _ _ _ _ slept => rw [asked]; exact .ofSleep slept
  | case4 _ _ _ _ _ _ _ _ asked => rw [asked]; exact .refl _
  | case5 _ _ _ _ _ _ _ _ asked => rw [asked]; exact .refl _
  | case6 _ _ _ _ _ _ _ asked _ _ _ ih =>
    rw [asked]
    exact (Session.extends_ask _ _).trans ih
  | case7 _ _ _ _ _ _ _ asked => rw [asked]; exact .refl _

theorem extends_attempt (number : Nat) (feedback : Option String) (metrics : Metrics) (left : Nat)
    (reasoner : Reasoner) :
    Extends reasoner (attempt stage base prompt read number feedback metrics left reasoner).2 :=
  (reasoner.extends_ask _).trans
    (extends_ask_attempt stage base prompt read number feedback metrics left reasoner)

theorem follows_attempt (number : Nat) (feedback : Option String) (metrics : Metrics) (left : Nat)
    {reasoner : Reasoner} (live : reasoner.Live) :
    Follows (fun run => GaveUp run.output) reasoner
      (attempt stage base prompt read number feedback metrics left reasoner)
      (attempt stage base prompt read number feedback metrics left reasoner.calm) := by
  generalize calmly :
    attempt stage base prompt read number feedback metrics left reasoner.calm = calm
  fun_induction attempt stage base prompt read number feedback metrics left reasoner
    generalizing calm with
  | case1 left number feedback metrics reasoner _ _ asked =>
    have further :=
      extends_ask_attempt stage base prompt read number feedback metrics left reasoner.calm
    rw [calmly] at further
    exact .halted rfl ((live.stoppedAsking asked).extend further)
  | case2 number feedback metrics reasoner _ failure heard asked left transient _ _ slept ih =>
    obtain ⟨calmAsked, answered⟩ := live.heard asked (Reply.failed_ne_cancelled failure)
    obtain ⟨calmSlept, waited⟩ := answered.live.slept slept
    rw [attempt, calmAsked] at calmly
    simp only [transient, calmSlept] at calmly
    exact .after (answered.trans waited) (ih waited.live calm calmly)
  | case3 number feedback metrics reasoner _ failure heard asked left transient _ _ slept =>
    obtain ⟨calmAsked, answered⟩ := live.heard asked (Reply.failed_ne_cancelled failure)
    rw [attempt, calmAsked] at calmly
    simp only [transient] at calmly
    rw [answered.live.sleep_calm] at calmly
    -- the calm session goes on with the next attempt
    subst calmly
    have stopped := answered.live.stoppedSleeping slept
    exact .halted rfl (answered.stopped (stopped.extend (extends_attempt ..)))
  | case4 left number feedback metrics reasoner _ failure heard asked final =>
    obtain ⟨calmAsked, answered⟩ := live.heard asked (Reply.failed_ne_cancelled failure)
    rw [attempt, calmAsked] at calmly
    dsimp only at calmly
    split at calmly
    · exact absurd ‹_› (final _ rfl)
    · subst calmly
      exact .done Bool.false_ne_true answered
  | case5 left number feedback metrics reasoner _ reply heard asked value accepted =>
    obtain ⟨calmAsked, answered⟩ := live.heard asked (Reply.answered_ne_cancelled reply)
    rw [attempt, calmAsked] at calmly
    simp only [accepted] at calmly
    subst calmly
    exact .done (gaveUp_ok value) answered
  | case6 number feedback metrics reasoner _ reply heard asked defect refused left ih =>
    obtain ⟨calmAsked, answered⟩ := live.heard asked (Reply.answered_ne_cancelled reply)
    rw [attempt, calmAsked] at calmly
    simp only [refused] at calmly
    exact .after answered (ih answered.live calm calmly)
  | case7 number feedback metrics reasoner _ reply heard asked defect refused =>
    obtain ⟨calmAsked, answered⟩ := live.heard asked (Reply.answered_ne_cancelled reply)
    rw [attempt, calmAsked] at calmly
    simp only [refused] at calmly
    subst calmly
    exact .done Bool.false_ne_true answered

theorem follows_run (budget : RetryBudget) (accept : Json → Option (Except Violation α))
    {reasoner : Reasoner} (live : reasoner.Live) :
    Follows (fun run => GaveUp run.output) reasoner (run stage budget prompt accept reasoner)
      (run stage budget prompt accept reasoner.calm) :=
  follows_attempt stage _ prompt _ 1 none .zero _ live

theorem extends_run (budget : RetryBudget) (accept : Json → Option (Except Violation α))
    (reasoner : Reasoner) : Extends reasoner (run stage budget prompt accept reasoner).2 := by
  exact extends_attempt stage budget.backoffBase prompt (readReply accept) 1 none .zero
    (budget.maxAttempts - 1) reasoner

end Stage

theorem Planning.follows_run (budget : RetryBudget) (request : Request) {reasoner : Reasoner}
    (live : reasoner.Live) :
    Follows (fun run => GaveUp run.output) reasoner (Planning.run budget request reasoner)
      (Planning.run budget request reasoner.calm) :=
  Stage.follows_run .strategy (Prompt.strategy request) budget Planning.accept live

theorem Planning.extends_run (budget : RetryBudget) (request : Request) (reasoner : Reasoner) :
    Extends reasoner (Planning.run budget request reasoner).2 :=
  Stage.extends_run .strategy (Prompt.strategy request) budget Planning.accept reasoner

theorem Analysis.follows_run (budget : RetryBudget) (document : StrategyDocument)
    (stats : Statistics) (assessments : List Assessment) {reasoner : Reasoner}
    (live : reasoner.Live) :
    Follows (fun run => GaveUp run.output) reasoner
      (Analysis.run budget document stats assessments reasoner)
      (Analysis.run budget document stats assessments reasoner.calm) :=
  Stage.follows_run .landscape (Prompt.landscape document stats) budget
    (Analysis.accept stats assessments) live

theorem Analysis.extends_run (budget : RetryBudget) (document : StrategyDocument)
    (stats : Statistics) (assessments : List Assessment) (reasoner : Reasoner) :
    Extends reasoner (Analysis.run budget document stats assessments reasoner).2 :=
  Stage.extends_run .landscape (Prompt.landscape document stats) budget
    (Analysis.accept stats assessments) reasoner

/-! ## The batches of the assessment -/

namespace Assess

section Attempt

variable (base : Nat) (known members : List String) (prompt : String)
  (read : String → Option (List Assessment))

theorem extends_ask_attempt (number : Nat) (feedback : Option String) (counts : Counts)
    (left : Nat) (reasoner : Reasoner) :
    Extends (reasoner.ask (Stage.promptWith prompt feedback)).2
      (attempt base known members prompt read number feedback counts left reasoner).2.2 := by
  fun_induction attempt base known members prompt read number feedback counts left reasoner with
  | case1 _ _ _ _ _ _ _ asked => rw [asked]; exact .refl _
  | case2 _ _ _ _ _ _ _ asked _ _ _ _ slept ih =>
    rw [asked]
    exact ((Extends.ofSleep slept).trans (Session.extends_ask _ _)).trans ih
  | case3 _ _ _ _ _ _ _ asked _ _ _ _ slept => rw [asked]; exact .ofSleep slept
  | case4 _ _ _ _ _ _ _ _ asked => rw [asked]; exact .refl _
  | case5 _ _ _ _ _ _ _ asked _ _ ih =>
    rw [asked]
    exact (Session.extends_ask _ _).trans ih
  | case6 _ _ _ _ _ _ _ asked => rw [asked]; exact .refl _
  | case7 _ _ _ _ _ _ _ asked _ _ _ _ _ _ _ _ ih =>
    rw [asked]
    exact (Session.extends_ask _ _).trans ih
  | case8 _ _ _ _ _ _ _ _ asked => rw [asked]; exact .refl _

theorem extends_attempt (number : Nat) (feedback : Option String) (counts : Counts) (left : Nat)
    (reasoner : Reasoner) :
    Extends reasoner
      (attempt base known members prompt read number feedback counts left reasoner).2.2 :=
  (reasoner.extends_ask _).trans
    (extends_ask_attempt base known members prompt read number feedback counts left reasoner)

def ofBatch (batch : Except RunError (List Assessment) × Counts × Reasoner) :
    (Except RunError (List Assessment) × Counts) × Reasoner :=
  ((batch.1, batch.2.1), batch.2.2)

theorem follows_attempt (number : Nat) (feedback : Option String) (counts : Counts) (left : Nat)
    {reasoner : Reasoner} (live : reasoner.Live) :
    Follows (fun batch => GaveUp batch.1) reasoner
      (ofBatch (attempt base known members prompt read number feedback counts left reasoner))
      (ofBatch
        (attempt base known members prompt read number feedback counts left reasoner.calm)) := by
  generalize calmly :
    attempt base known members prompt read number feedback counts left reasoner.calm = calm
  fun_induction attempt base known members prompt read number feedback counts left reasoner
    generalizing calm with
  | case1 left number feedback counts reasoner _ _ asked =>
    have further :=
      extends_ask_attempt base known members prompt read number feedback counts left reasoner.calm
    rw [calmly] at further
    exact .halted rfl ((live.stoppedAsking asked).extend further)
  | case2 number feedback counts reasoner _ failure heard asked left transient _ _ slept ih =>
    obtain ⟨calmAsked, answered⟩ := live.heard asked (Reply.failed_ne_cancelled failure)
    obtain ⟨calmSlept, waited⟩ := answered.live.slept slept
    rw [attempt, calmAsked] at calmly
    simp only [transient, calmSlept] at calmly
    exact .after (answered.trans waited) (ih waited.live calm calmly)
  | case3 number feedback counts reasoner _ failure heard asked left transient _ _ slept =>
    obtain ⟨calmAsked, answered⟩ := live.heard asked (Reply.failed_ne_cancelled failure)
    rw [attempt, calmAsked] at calmly
    simp only [transient] at calmly
    rw [answered.live.sleep_calm] at calmly
    -- the calm session goes on with the next attempt
    subst calmly
    have stopped := answered.live.stoppedSleeping slept
    exact .halted rfl (answered.stopped (stopped.extend (extends_attempt ..)))
  | case4 left number feedback counts reasoner _ failure heard asked final =>
    obtain ⟨calmAsked, answered⟩ := live.heard asked (Reply.failed_ne_cancelled failure)
    rw [attempt, calmAsked] at calmly
    dsimp only at calmly
    split at calmly
    · exact absurd ‹_› (final _ rfl)
    · subst calmly
      exact .done Bool.false_ne_true answered
  | case5 number feedback counts reasoner _ reply heard asked unread left ih =>
    obtain ⟨calmAsked, answered⟩ := live.heard asked (Reply.answered_ne_cancelled reply)
    rw [attempt, calmAsked] at calmly
    simp only [unread] at calmly
    exact .after answered (ih answered.live calm calmly)
  | case6 number feedback counts reasoner _ reply heard asked unread =>
    obtain ⟨calmAsked, answered⟩ := live.heard asked (Reply.answered_ne_cancelled reply)
    rw [attempt, calmAsked] at calmly
    simp only [unread] at calmly
    subst calmly
    exact .done Bool.false_ne_true answered
  | case7 number feedback counts reasoner _ reply heard asked entries hread _ _ _ missing left
      incomplete ih =>
    obtain ⟨calmAsked, answered⟩ := live.heard asked (Reply.answered_ne_cancelled reply)
    rw [attempt, calmAsked] at calmly
    simp only [hread] at calmly
    split at calmly
    case h_1 same _ =>
      obtain rfl := Nat.succ.inj same
      exact .after answered (ih answered.live calm calmly)
    case h_2 final => exact absurd incomplete (final left rfl)
  | case8 left number feedback counts reasoner _ reply heard asked entries hread _ _ _ missing
      assigned fallbacks shared complete =>
    obtain ⟨calmAsked, answered⟩ := live.heard asked (Reply.answered_ne_cancelled reply)
    rw [attempt, calmAsked] at calmly
    simp only [hread] at calmly
    split at calmly
    case h_1 some => exact absurd some (complete _ rfl)
    case h_2 =>
      rw [show assign (accepted known members entries) members = (assigned, fallbacks) from shared]
        at calmly
      subst calmly
      exact .done id answered

end Attempt

def ofBatches (batches : Except RunError (List Assessment) × Nat × Counts × Reasoner) :
    (Except RunError (List Assessment) × Nat × Counts) × Reasoner :=
  ((batches.1, batches.2.1, batches.2.2.1), batches.2.2.2)

/-- What comes of a batch and, if it was assessed, of those after it. -/
def andThen (begun : Nat)
    (rest : Counts → Reasoner → Except RunError (List Assessment) × Nat × Counts × Reasoner)
    (batch : Except RunError (List Assessment) × Counts) (reasoner : Reasoner) :
    (Except RunError (List Assessment) × Nat × Counts) × Reasoner :=
  match batch with
  | (.error error, counts) => ((.error error, begun + 1, counts), reasoner)
  | (.ok assigned, counts) =>
    let others := ofBatches (rest counts reasoner)
    ((others.1.1.map (assigned ++ ·), others.1.2), others.2)

variable (document : StrategyDocument) (settings : AssessmentSettings) (base : Nat)

theorem assessBatches_cons (begun : Nat) (counts : Counts) (batch : List PatentRecord)
    (rest : List (List PatentRecord)) (reasoner : Reasoner) :
    let done := ofBatch (attempt base document.elementIds (batch.map (·.id))
      (Prompt.assessment document batch) readReply? 1 none counts (settings.maxAttempts - 1)
      reasoner)
    ofBatches (assessBatches document settings base begun counts (batch :: rest) reasoner) =
      andThen begun (assessBatches document settings base (begun + 1) · rest ·) done.1 done.2 := by
  rw [assessBatches]
  generalize attempt base _ _ _ _ _ _ _ _ _ = done
  obtain ⟨error | assigned, counts, heard⟩ := done
  · rfl
  · dsimp only [andThen, ofBatch]
    generalize assessBatches document settings base (begun + 1) counts rest heard = after
    obtain ⟨error | assigned, begun, counts, later⟩ := after
    · rfl
    · rfl

theorem extends_andThen {begun : Nat}
    {rest : Counts → Reasoner → Except RunError (List Assessment) × Nat × Counts × Reasoner}
    (further : ∀ counts reasoner, Extends reasoner (rest counts reasoner).2.2.2)
    (batch : Except RunError (List Assessment) × Counts) (reasoner : Reasoner) :
    Extends reasoner (andThen begun rest batch reasoner).2 := by
  obtain ⟨error | assigned, counts⟩ := batch
  · exact .refl reasoner
  · exact further counts reasoner

theorem extends_assessBatches (begun : Nat) (counts : Counts) (batches : List (List PatentRecord))
    (reasoner : Reasoner) :
    Extends reasoner
      (ofBatches (assessBatches document settings base begun counts batches reasoner)).2 := by
  induction batches generalizing begun counts reasoner with
  | nil => exact .refl reasoner
  | cons batch rest ih =>
    rw [assessBatches_cons]
    exact (extends_attempt ..).trans
      (extends_andThen (fun counts reasoner => ih (begun + 1) counts reasoner) _ _)

theorem follows_assessBatches (begun : Nat) (counts : Counts) (batches : List (List PatentRecord))
    {reasoner : Reasoner} (live : reasoner.Live) :
    Follows (fun batches => GaveUp batches.1) reasoner
      (ofBatches (assessBatches document settings base begun counts batches reasoner))
      (ofBatches (assessBatches document settings base begun counts batches reasoner.calm)) := by
  induction batches generalizing begun counts reasoner with
  | nil => exact .done id (.refl live)
  | cons batch rest ih =>
    rw [assessBatches_cons, assessBatches_cons]
    refine (follows_attempt _ _ _ _ _ _ _ _ _ live).bind (andThen begun _) (andThen begun _) ?_
      (extends_andThen fun counts reasoner =>
        extends_assessBatches document settings base (begun + 1) counts rest reasoner) ?_
    · rintro ⟨error | assigned, counts⟩ heard gone
      · exact ⟨gone, rfl⟩
      · exact absurd gone (gaveUp_ok assigned)
    · rintro ⟨error | assigned, counts⟩ heard going heardLive
      · exact .done going (.refl heardLive)
      · exact (ih (begun + 1) counts heardLive).map (fun batches => GaveUp batches.1)
          (fun others => (others.1.map (assigned ++ ·), others.2)) fun _ => gaveUp_map _ _

theorem extends_run (patents : List PatentRecord) (reasoner : Reasoner) :
    Extends reasoner (run settings base document patents reasoner).2 := by
  unfold run
  dsimp only
  have batches := extends_assessBatches document settings base 0 .zero
    (chunks settings.batchSize
      ((PatentRecord.sortForAssessment (patents.filter (·.hasAbstract))).take settings.maxAssessed))
    reasoner
  generalize assessBatches _ _ _ _ _ _ _ = done at batches ⊢
  obtain ⟨error | assessments, begun, counts, heard⟩ := done
  · exact batches
  · exact batches

theorem follows_run (patents : List PatentRecord) {reasoner : Reasoner} (live : reasoner.Live) :
    Follows (fun run => GaveUp run.output) reasoner (run settings base document patents reasoner)
      (run settings base document patents reasoner.calm) := by
  unfold run
  dsimp only
  have batches := follows_assessBatches document settings base 0 .zero
    (chunks settings.batchSize
      ((PatentRecord.sortForAssessment (patents.filter (·.hasAbstract))).take settings.maxAssessed))
    live
  generalize assessBatches _ _ _ _ _ _ reasoner = done at batches ⊢
  generalize assessBatches _ _ _ _ _ _ reasoner.calm = calmDone at batches ⊢
  obtain ⟨result, begun, counts, heard⟩ := done
  obtain ⟨calmResult, calmBegun, calmCounts, calmHeard⟩ := calmDone
  by_cases gone : GaveUp result
  · have stopped := batches.stopped gone
    cases result with
    | ok assessments => exact absurd gone (gaveUp_ok assessments)
    | error error =>
      cases calmResult with
      | error calmError => exact .halted gone stopped
      | ok assessments => exact .halted gone stopped
  · obtain ⟨same, step⟩ := batches.continued gone
    simp only [ofBatches, Prod.mk.injEq] at same
    obtain ⟨⟨rfl, rfl, rfl⟩, rfl⟩ := same
    cases calmResult with
    | error error => exact .done gone step
    | ok assessments => exact .done id step

end Assess

end PriorArt
