import PriorArt.Proofs.Assessment.Settlement

/-!
# Which reply counts

1. `Assess.Hearing.assessments`, `Assess.Hearing.metrics`: what a batch brings, as the replies about
   it decide.
2. `Assess.Settles`: what the batches that were begun bring together
   (`Assess.settles_of_assessBatches`).
3. `Assess.Course`: the course of an assessment that nobody cancels (`Assess.concludes_run`).
-/

namespace PriorArt

namespace Assess

/-! ## What a batch brings -/

namespace Hearing

/-- The replies end with the first one whose outcome is final, or with that of the last attempt. -/
def IsConcluded (hearing : Hearing) (most : Nat) : Prop :=
  Assess.IsConcluded hearing.members most hearing.replies

/-- What comes of the batch, as the last reply decides. -/
def verdict? (known : List String) (hearing : Hearing) :
    Option (Except RunError (List Assessment)) :=
  Assess.verdict? known hearing.members hearing.replies

def assessments (known : List String) (hearing : Hearing) : List Assessment :=
  match hearing.verdict? known with
  | some (.ok assigned) => assigned
  | _ => []

/-- The number of calls about the batch, and why there was more than one. -/
def metrics (hearing : Hearing) : Metrics :=
  metricsOf hearing.members hearing.replies

end Hearing

/-- A batch for which nobody cancels the attempts is heard to the end. -/
theorem concluded_of_attempt {document : StrategyDocument} {settings : AssessmentSettings}
    {base : Nat} {counts counted : Counts} {batch : List PatentRecord} {reasoner after : Reasoner}
    {result : Except RunError (List Assessment)} (distinct : (batch.map (·.id)).Nodup)
    (calm : reasoner.IsCalm)
    (done : attempt base document.elementIds (batch.map (·.id)) (Prompt.assessment document batch)
      readReply? 1 none counts (settings.maxAttempts - 1) reasoner = (result, counted, after)) :
    ∃ calls replies, (Hearing.mk batch calls replies).IsAbout document ∧
      after.calls = reasoner.calls ++ calls ∧
      Heard (batch.map (·.id)) reasoner counts (result, counted, after) replies ∧
      Concludes document.elementIds (batch.map (·.id)) (max settings.maxAttempts 1) reasoner counts
        (result, counted, after) replies := by
  have ended := @concludes_of_attempt document.elementIds (batch.map (·.id)) base
    (Prompt.assessment document batch) 1 none counts (settings.maxAttempts - 1) reasoner distinct
    calm
  rw [done, show settings.maxAttempts - 1 + 1 = max settings.maxAttempts 1 by omega] at ended
  obtain ⟨received, concludes⟩ := ended
  obtain ⟨calls, replies, about, made, heard⟩ :=
    hearing_of_attempt distinct done (ne_cancelled_of_verdict concludes.verdict)
  obtain rfl : replies = received := concludes.received.unique heard.received
  exact ⟨calls, replies, about, made, heard, concludes⟩

/-! ## What the batches bring together -/

/-- The assessments are those of all batches, or the last batch brought the error. -/
def Decides (known : List String) (hearings : List Hearing) :
    Except RunError (List Assessment) → Prop
  | .ok assessments => assessments = hearings.flatMap (·.assessments known)
  | .error error =>
    ∃ last, hearings.getLast? = some last ∧ last.verdict? known = some (.error error)

namespace Decides

variable {known : List String} {first : Hearing} {hearings : List Hearing}

theorem cons_ok {assigned others : List Assessment}
    (verdict : first.verdict? known = some (.ok assigned))
    (decides : Decides known hearings (.ok others)) :
    Decides known (first :: hearings) (.ok (assigned ++ others)) := by
  have ofFirst : first.assessments known = assigned := by rw [Hearing.assessments, verdict]
  have ofRest : others = hearings.flatMap (·.assessments known) := decides
  show assigned ++ others = _
  rw [List.flatMap_cons, ofFirst, ofRest]

theorem cons_error {error : RunError} (decides : Decides known hearings (.error error)) :
    Decides known (first :: hearings) (.error error) := by
  obtain ⟨last, isLast, verdict⟩ := decides
  exact ⟨last, by rw [List.getLast?_cons, isLast, Option.getD_some], verdict⟩

end Decides

/-- What came of the batches that were begun. -/
structure Settles (known : List String) (most : Nat) (before after : Metrics)
    (result : Except RunError (List Assessment)) (hearings : List Hearing) : Prop where
  concluded : ∀ hearing ∈ hearings, hearing.IsConcluded most
  metrics : after = before + (hearings.map (·.metrics)).sum
  decides : Decides known hearings result

namespace Settles

variable {known : List String} {most : Nat}

theorem nil (metrics : Metrics) : Settles known most metrics metrics (.ok []) [] where
  concluded := by simp
  metrics := rfl
  decides := rfl

theorem cons {after : Metrics} {counts counted : Counts} {batch : List PatentRecord}
    {calls : List (Call String)} {replies : List (Except Failure String)}
    {reasoner between : Reasoner} {ofBatch ofRest result : Except RunError (List Assessment)}
    {hearings : List Hearing}
    (others : Settles known most counted.metrics after ofRest hearings)
    (concludes : Concludes known (batch.map (·.id)) most reasoner counts
      (ofBatch, counted, between) replies)
    (decides : Decides known (⟨batch, calls, replies⟩ :: hearings) result) :
    Settles known most counts.metrics after result (⟨batch, calls, replies⟩ :: hearings) where
  concluded := List.forall_mem_cons.2 ⟨concludes.concluded, others.concluded⟩
  metrics := by
    have first : counted.metrics = counts.metrics + metricsOf (batch.map (·.id)) replies :=
      concludes.metrics
    rw [others.metrics, first, Metrics.add_assoc]
    rfl
  decides

end Settles

theorem settles_of_assessBatches {document : StrategyDocument} {settings : AssessmentSettings}
    {base begun : Nat} {counts : Counts} {batches : List (List PatentRecord)}
    {reasoner : Reasoner} (distinct : ∀ batch ∈ batches, (batch.map (·.id)).Nodup)
    (calm : reasoner.IsCalm) :
    ∃ hearings,
      Hearings document begun reasoner counts
        (assessBatches document settings base begun counts batches reasoner).2 hearings ∧
      Settles document.elementIds (max settings.maxAttempts 1) counts.metrics
        (assessBatches document settings base begun counts batches reasoner).2.2.1.metrics
        (assessBatches document settings base begun counts batches reasoner).1 hearings ∧
      match (assessBatches document settings base begun counts batches reasoner).1 with
      | .ok _ => Completes batches hearings
      | .error _ => BreaksOff batches hearings := by
  fun_induction assessBatches document settings base begun counts batches reasoner with
  | case1 => exact ⟨[], .nil .., .nil _, rfl, by simp⟩
  | case2 begun counts batch rest reasoner error counted after ofBatch =>
    obtain ⟨calls, replies, about, made, heard, concludes⟩ :=
      concluded_of_attempt (distinct batch List.mem_cons_self) calm ofBatch
    refine ⟨_, (Hearings.nil ..).cons about made heard,
      (Settles.nil _).cons concludes ⟨_, rfl, concludes.verdict⟩, ?_⟩
    refine ⟨[], _, rfl, ⟨rest, rfl⟩, by simp, fun settled => ?_⟩
    obtain ⟨assigned, ok⟩ := heard.settled.2 settled
    cases ok
  | case3 begun counts batch rest reasoner assigned counted between ofBatch error begun' counted'
      after ofRest ih =>
    obtain ⟨calls, replies, about, made, heard, concludes⟩ :=
      concluded_of_attempt (distinct batch List.mem_cons_self) calm ofBatch
    rw [ofRest] at ih
    obtain ⟨hearings, others, settles, breaksOff⟩ :=
      ih (fun other member => distinct other (List.mem_cons_of_mem _ member)) concludes.calm
    exact ⟨_, others.cons about made heard, settles.cons concludes settles.decides.cons_error,
      breaksOff.cons (heard.settled.1 ⟨assigned, rfl⟩)⟩
  | case4 begun counts batch rest reasoner assigned counted between ofBatch others begun' counted'
      after ofRest ih =>
    obtain ⟨calls, replies, about, made, heard, concludes⟩ :=
      concluded_of_attempt (distinct batch List.mem_cons_self) calm ofBatch
    rw [ofRest] at ih
    obtain ⟨hearings, heardOthers, settles, completes⟩ :=
      ih (fun other member => distinct other (List.mem_cons_of_mem _ member)) concludes.calm
    exact ⟨_, heardOthers.cons about made heard,
      settles.cons concludes (settles.decides.cons_ok concludes.verdict),
      completes.cons (heard.settled.1 ⟨assigned, rfl⟩)⟩

theorem length_calls {document : StrategyDocument} {hearings : List Hearing}
    (about : ∀ hearing ∈ hearings, hearing.IsAbout document) :
    (hearings.flatMap (·.calls)).length = (hearings.map Hearing.metrics).sum.attempts := by
  induction hearings with
  | nil => rfl
  | cons first rest ih =>
    obtain ⟨ofFirst, ofRest⟩ := List.forall_mem_cons.1 about
    rw [List.flatMap_cons, List.length_append, ih ofRest, ← ofFirst.answered]
    rfl

/-- Each call is the last one about its batch or is repeated for one reason. -/
theorem balanced_sum {hearings : List Hearing} {most : Nat}
    (concluded : ∀ hearing ∈ hearings, hearing.IsConcluded most) :
    let metrics := (hearings.map Hearing.metrics).sum
    metrics.attempts = hearings.length + metrics.contentRetries + metrics.transportRetries := by
  induction hearings with
  | nil => rfl
  | cons first rest ih =>
    obtain ⟨ofFirst, ofRest⟩ := List.forall_mem_cons.1 concluded
    have balanced : first.metrics.attempts =
        1 + first.metrics.contentRetries + first.metrics.transportRetries :=
      balanced_metricsOf ofFirst
    have others := ih ofRest
    rw [List.map_cons, List.sum_cons, List.length_cons, Metrics.add_def]
    dsimp only at others ⊢
    omega

/-! ## The outcome -/

/-- The patents that are assessed. -/
def candidates (settings : AssessmentSettings) (patents : List PatentRecord) : List PatentRecord :=
  (PatentRecord.sortForAssessment (patents.filter (·.hasAbstract))).take settings.maxAssessed

/-- The course of an assessment that nobody cancels, with the batches that were begun. -/
structure Course (settings : AssessmentSettings) (document : StrategyDocument)
    (patents : List PatentRecord) (reasoner : Reasoner)
    (done : StageRun AssessmentOutcome × Reasoner) (hearings : List Hearing) : Prop where
  /-- The last reply about a batch is the first that mentions all its members or the first failure
  that does not pass, or that of the last attempt. -/
  concluded : ∀ hearing ∈ hearings, hearing.IsConcluded (max settings.maxAttempts 1)
  metrics : done.1.metrics = (hearings.map (·.metrics)).sum
  calls : done.2.calls.length = reasoner.calls.length + done.1.metrics.attempts
  balanced : done.1.metrics.attempts =
    hearings.length + done.1.metrics.contentRetries + done.1.metrics.transportRetries
  ended :
    match done.1.output with
    | .ok outcome =>
      Completes (chunks settings.batchSize (candidates settings patents)) hearings ∧
        outcome.assessments =
          Assessment.sortForOutput (grantDate (candidates settings patents))
            ((hearings.flatMap (·.assessments document.elementIds)).filter (·.relevance ≠ .none)) ∧
        outcome.Tallies settings document patents reasoner.answer reasoner.calls done.2.calls
          hearings
    | .error error =>
      BreaksOff (chunks settings.batchSize (candidates settings patents)) hearings ∧
        Decides document.elementIds hearings (.error error) ∧
        ∃ counted, done.1.partialOutput = some counted ∧ counted.assessments = [] ∧
          counted.Tallies settings document patents reasoner.answer reasoner.calls done.2.calls
            hearings

theorem count_calls {document : StrategyDocument} {before : Reasoner} {most : Nat}
    {counts : Counts} {batches : Nat} {after : Reasoner} {known : List String}
    {result : Except RunError (List Assessment)} {hearings : List Hearing}
    (heard : Hearings document 0 before .zero (batches, counts, after) hearings)
    (settles : Settles known most Counts.zero.metrics counts.metrics result hearings) :
    counts.metrics = (hearings.map (·.metrics)).sum ∧
      after.calls.length = before.calls.length + counts.metrics.attempts := by
  have metrics : counts.metrics = (hearings.map (·.metrics)).sum :=
    settles.metrics.trans (Metrics.zero_add _)
  refine ⟨metrics, ?_⟩
  rw [heard.made, List.length_append, length_calls heard.about, metrics]

/-- **Which replies count.** In an assessment that nobody cancels the last reply about a batch
decides what comes of it, and all replies are counted. -/
theorem concludes_run {settings : AssessmentSettings} {patents : List PatentRecord}
    {reasoner : Reasoner} (base : Nat) (document : StrategyDocument)
    (distinct : ((candidates settings patents).map (·.id)).Nodup) (calm : reasoner.IsCalm) :
    ∃ hearings, Course settings document patents reasoner
      (run settings base document patents reasoner) hearings := by
  obtain ⟨hearings, heard, settles, ended⟩ := @settles_of_assessBatches document settings base 0
    .zero (chunks settings.batchSize (candidates settings patents)) reasoner
    (fun batch member => nodup_of_mem_chunks distinct member) calm
  refine ⟨hearings, ?_⟩
  generalize ran : run settings base document patents reasoner = done
  unfold run at ran
  dsimp only at ran
  split at ran
  case h_1 error batches counts after assessed =>
    subst ran
    rw [candidates, assessed] at heard settles ended
    obtain ⟨metrics, calls⟩ := count_calls heard settles
    exact
      { concluded := settles.concluded
        metrics
        calls
        balanced := metrics ▸ balanced_sum settles.concluded
        ended := ⟨ended, settles.decides, _, rfl, rfl, heard.tallies rfl rfl rfl rfl rfl⟩ }
  case h_2 assessments batches counts after assessed =>
    subst ran
    rw [candidates, assessed] at heard settles ended
    obtain ⟨metrics, calls⟩ := count_calls heard settles
    have assigned : assessments = hearings.flatMap (·.assessments document.elementIds) :=
      settles.decides
    exact
      { concluded := settles.concluded
        metrics
        calls
        balanced := metrics ▸ balanced_sum settles.concluded
        ended := ⟨ended, by rw [← assigned]; rfl, heard.tallies rfl rfl rfl rfl rfl⟩ }

/-! ### A batch for which the last attempt counts -/

def stubbornSettings : AssessmentSettings :=
  { maxAssessed := 2
    batchSize := 2
    maxAttempts := 3 }

/-- The first call is not answered in time. The replies after it miss one patent each, and have an
entry for one that is not in the batch; the last one has two entries for the same patent. -/
def stubbornReasoner : Reasoner :=
  { clock := .start
    calls := []
    answer
      | 0 => ⟨0, false, .error (.timeout "")⟩
      | 1 => ⟨0, false, .ok "[[[\" P3 \",\"high\"],[\"P9\"]]]"⟩
      | _ => ⟨0, false, .ok "[[[\"P2\",\"low\"],[\"P7\"],[\"P2\",\"medium\"]]]"⟩ }

theorem run_stubborn :
    (run stubbornSettings 0 patchDocument patchPatents stubbornReasoner).1.output.toOption.map
        (fun outcome => (outcome.assessments.map fun a => (a.patentId, a.relevance),
          outcome.foreignDropped, outcome.fallbacks)) =
      some ([("P2", .medium)], 2, 1) ∧
    (run stubbornSettings 0 patchDocument patchPatents stubbornReasoner).1.metrics = ⟨3, 1, 1⟩ := by
  rw [run, sortForAssessment_patch]
  decide +kernel

/-- Of the two entries for one patent the last one is taken, and the other patent gets a stand-in,
although an earlier reply has an entry for it. -/
theorem concludes_run_stubborn : ∃ outcome hearings,
    ((candidates stubbornSettings patchPatents).map (·.id)).Nodup ∧ stubbornReasoner.IsCalm ∧
    (run stubbornSettings 0 patchDocument patchPatents stubbornReasoner).1.output = .ok outcome ∧
    outcome.assessments.map (fun a => (a.patentId, a.relevance)) = [("P2", .medium)] ∧
    outcome.foreignDropped = 2 ∧ outcome.fallbacks = 1 ∧
    (run stubbornSettings 0 patchDocument patchPatents stubbornReasoner).1.metrics = ⟨3, 1, 1⟩ ∧
    Course stubbornSettings patchDocument patchPatents stubbornReasoner
      (run stubbornSettings 0 patchDocument patchPatents stubbornReasoner) hearings := by
  have distinct : ((candidates stubbornSettings patchPatents).map (·.id)).Nodup := by
    rw [candidates, sortForAssessment_patch]
    decide
  have calm : stubbornReasoner.IsCalm := by
    refine ⟨⟨rfl, rfl⟩, fun n => ?_⟩
    rcases n with _ | _ | n <;> rfl
  obtain ⟨found, metrics⟩ := run_stubborn
  obtain ⟨hearings, course⟩ := concludes_run 0 patchDocument distinct calm
  obtain ⟨outcome, ok, facts⟩ := Option.map_eq_some_iff.1 found
  obtain ⟨assessments, counts⟩ := Prod.mk.inj facts
  obtain ⟨foreignDropped, fallbacks⟩ := Prod.mk.inj counts
  refine ⟨outcome, hearings, distinct, calm, ?_, assessments, foreignDropped, fallbacks, metrics,
    course⟩
  cases output : (run stubbornSettings 0 patchDocument patchPatents stubbornReasoner).1.output with
  | error error =>
    rw [output] at ok
    cases ok
  | ok other =>
    rw [output] at ok
    exact congrArg Except.ok (Option.some.inj ok)

end Assess

end PriorArt
