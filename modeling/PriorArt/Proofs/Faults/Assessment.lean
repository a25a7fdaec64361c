import PriorArt.Proofs.Assessment.Rounds
import PriorArt.Proofs.Faults.Stages

/-!
# An assessment with inserted faults

1. `Assess.agree_attempt`: one batch. What it asks again after an incomplete reply is the same with
   faults, and so is the attempt with which it gives up.
2. `Assess.Rounds`: batches that were asked about one after the other, each with its calls.
   `Assess.agree_assessBatches`: they come to the same if the attempts for each of them suffice.
3. `Assess.agree_run`: the assessment.
-/

namespace PriorArt

open Session

variable {faults : Faults}

namespace Assess

/-! ## The counts -/

def Counts.uncounted (counts : Counts) : Counts :=
  { counts with metrics := counts.metrics.uncounted }

/-- Counts are alike if they agree in what is not a number of attempts. -/
theorem Counts.uncounted_inj {counts counts' : Counts} :
    counts'.uncounted = counts.uncounted ↔
      counts'.metrics.contentRetries = counts.metrics.contentRetries ∧
        counts'.foreignDropped = counts.foreignDropped ∧ counts'.fallbacks = counts.fallbacks := by
  simp [uncounted, Metrics.uncounted]

theorem Counts.uncounted_repeated {counts counts' : Counts}
    (alike : counts'.uncounted = counts.uncounted) (foreign : Nat) :
    uncounted ⟨counts'.metrics.attempted.repeatedForContent, counts'.foreignDropped + foreign,
        counts'.fallbacks⟩ =
      uncounted ⟨counts.metrics.attempted.repeatedForContent, counts.foreignDropped + foreign,
        counts.fallbacks⟩ := by
  rw [uncounted_inj] at alike ⊢
  exact ⟨congrArg (· + 1) alike.1, congrArg (· + foreign) alike.2.1, alike.2.2⟩

theorem Counts.uncounted_finished {counts counts' : Counts}
    (alike : counts'.uncounted = counts.uncounted) (foreign fallbacks : Nat) :
    uncounted ⟨counts'.metrics.attempted, counts'.foreignDropped + foreign,
        counts'.fallbacks + fallbacks⟩ =
      uncounted ⟨counts.metrics.attempted, counts.foreignDropped + foreign,
        counts.fallbacks + fallbacks⟩ := by
  rw [uncounted_inj] at alike ⊢
  exact ⟨alike.1, congrArg (· + foreign) alike.2.1, congrArg (· + fallbacks) alike.2.2⟩

/-- The result of a batch with the counts, but for the numbers of attempts. -/
def uncountedBatch (batch : Except RunError (List Assessment) × Counts) :
    Except RunError (List Assessment) × Counts :=
  (batch.1, batch.2.uncounted)

/-! ## One batch -/

section Attempt

variable {base : Nat} {known members : List String} {prompt : String}
  {read : String → Option (List Assessment)}

theorem attempt_of_fault {fault : Fault} (transient : fault.failure.MayPass)
    {number : Nat} {feedback : Option String} {counts : Counts} {left : Nat}
    {reasoner heard : Reasoner}
    (asked : reasoner.ask (Stage.promptWith prompt feedback) = (.failed fault.failure, heard))
    (calm : heard.IsCalm) :
    ∃ now, attempt base known members prompt read number feedback counts (left + 1) reasoner =
      attempt base known members prompt read (number + 1) feedback
        { counts with metrics := counts.metrics.attempted.repeatedForTransport } left
        (heard.atTime now) := by
  obtain ⟨now, slept⟩ := calm.sleep (backoffDelay base number)
  refine ⟨now, ?_⟩
  rw [attempt, asked]
  simp only [fault.failure.isTransient_iff.2 transient, slept]

theorem attempt_past (transient : faults.Transient) {first second heard : Reasoner}
    (inStep : InStep faults first second) {feedback : Option String} {reply : Reply String}
    (asked : first.ask (Stage.promptWith prompt feedback) = (reply, heard)) {left stop : Nat}
    (enough : faults.Suffice (left + 1) first.calls.length stop)
    (further : heard.calls.length ≤ stop) (number : Nat) (counts : Counts) :
    ∃ number' counts' left' before last, counts'.uncounted = counts.uncounted ∧ left' ≤ left ∧
      faults.Suffice left' heard.calls.length stop ∧
      attempt base known members prompt read number feedback counts left second =
        attempt base known members prompt read number' feedback counts' left' before ∧
      before.ask (Stage.promptWith prompt feedback) = (reply, last) ∧
      InStep faults heard last := by
  obtain ⟨⟨number', counts'⟩, reached⟩ := inStep.ask
    (fun state : Nat × Counts =>
      attempt base known members prompt read state.1 feedback state.2)
    (fun state => state.2.uncounted = counts.uncounted)
    (fun fault member state left s t alike failed calm => by
      obtain ⟨now, again⟩ := attempt_of_fault (transient _ fault member) failed calm
      exact ⟨(state.1 + 1,
        { state.2 with metrics := state.2.metrics.attempted.repeatedForTransport }),
        now, alike, again⟩)
    asked enough further (number, counts) rfl
  exact ⟨number', counts', reached⟩

theorem agree_attempt (transient : faults.Transient) (number number' : Nat)
    (feedback : Option String) (counts counts' : Counts)
    (alike : counts'.uncounted = counts.uncounted) (left left' : Nat) (fewer : left' ≤ left)
    {first second : Reasoner} (inStep : InStep faults first second)
    (enough : faults.Suffice (left' + 1) first.calls.length
      (attempt base known members prompt read number feedback counts left
        first).2.2.calls.length) :
    Agree faults uncountedBatch
      (ofBatch (attempt base known members prompt read number feedback counts left first))
      (ofBatch (attempt base known members prompt read number' feedback counts' left' second)) := by
  generalize delayed :
    attempt base known members prompt read number' feedback counts' left' second = two
  fun_induction attempt base known members prompt read number feedback counts left first
    generalizing number' counts' left' second two with
  | case1 _ _ _ _ first _ _ asked => exact absurd rfl (inStep.calm.ne_cancelled asked)
  | case2 number feedback counts first _ failure heard asked left passes counted slept waited ih =>
    have next := extends_attempt base known members prompt read (number + 1) feedback counted left
      slept
    obtain ⟨number', counts', left', before, last, alike', fewer', enough, past, asked', further⟩ :=
      attempt_past transient inStep asked enough (calls_of_sleep waited ▸ next.calls.length_le)
        number' counts'
    obtain ⟨-, last', waited', further⟩ := further.sleep waited (backoffDelay base number')
    rw [← calls_of_sleep waited] at enough
    -- the first run makes one more call, for which the second one still has an attempt
    obtain ⟨left', rfl⟩ := enough.again (further.calm.length_lt (extends_ask_attempt ..))
    rw [past, attempt, asked'] at delayed
    simp only [passes, waited'] at delayed
    exact ih (number' + 1)
      { counts' with metrics := counts'.metrics.attempted.repeatedForTransport }
      (alike'.trans alike) left' (by omega) further enough two delayed
  | case3 _ _ _ _ _ _ _ asked _ _ _ _ given =>
    exact absurd ((inStep.calm.of_ask asked).reached given) Bool.false_ne_true
  | case4 left number feedback counts first _ failure heard asked final =>
    obtain ⟨number', counts', left', before, last, alike', fewer', -, past, asked', further⟩ :=
      attempt_past transient inStep asked enough (Nat.le_refl _) number' counts'
    rw [past, attempt, asked'] at delayed
    dsimp only at delayed
    split at delayed
    case h_1 passes =>
      -- an attempt that is left with the faults is left without them
      obtain ⟨left, rfl⟩ : ∃ left', left = left' + 1 := Nat.exists_eq_add_of_le' (by omega)
      exact absurd passes (final left rfl)
    case h_2 =>
      subst delayed
      exact ⟨congrArg (Prod.mk _) (alike'.trans alike), further⟩
  | case5 number feedback counts first _ reply heard asked unread left ih =>
    have next := extends_attempt base known members prompt read (number + 1)
      (some ContentDefect.invalidJson.feedback)
      { counts with metrics := counts.metrics.attempted.repeatedForContent } left heard
    obtain ⟨number', counts', left', before, last, alike', fewer', enough, past, asked', further⟩ :=
      attempt_past transient inStep asked enough next.calls.length_le number' counts'
    obtain ⟨left', rfl⟩ := enough.again (further.calm.length_lt (extends_ask_attempt ..))
    rw [past, attempt, asked'] at delayed
    simp only [unread] at delayed
    exact ih (number' + 1)
      { counts' with metrics := counts'.metrics.attempted.repeatedForContent }
      (Counts.uncounted_repeated (alike'.trans alike) 0) left' (by omega) further enough two delayed
  | case6 number feedback counts first _ reply heard asked unread =>
    obtain ⟨number', counts', left', before, last, alike', fewer', -, past, asked', further⟩ :=
      attempt_past transient inStep asked enough (Nat.le_refl _) number' counts'
    obtain rfl : left' = 0 := by omega
    rw [past, attempt, asked'] at delayed
    simp only [unread] at delayed
    subst delayed
    exact ⟨congrArg (Prod.mk _) (alike'.trans alike), further⟩
  | case7 number feedback counts first _ reply heard asked entries hread foreign _ _ missing left
      incomplete ih =>
    have next := extends_attempt base known members prompt read (number + 1)
      (some (missingFeedback missing))
      { counts with
        metrics := counts.metrics.attempted.repeatedForContent
        foreignDropped := counts.foreignDropped + foreign } left heard
    obtain ⟨number', counts', left', before, last, alike', fewer', enough, past, asked', further⟩ :=
      attempt_past transient inStep asked enough next.calls.length_le number' counts'
    obtain ⟨left', rfl⟩ := enough.again (further.calm.length_lt (extends_ask_attempt ..))
    rw [past, attempt, asked'] at delayed
    simp only [hread] at delayed
    split at delayed
    case h_1 same _ =>
      obtain rfl := Nat.succ.inj same
      exact ih (number' + 1) _ (Counts.uncounted_repeated (alike'.trans alike) foreign) left'
        (by omega) further enough two delayed
    case h_2 final => exact absurd incomplete (final left' rfl)
  | case8 left number feedback counts first _ reply heard asked entries hread foreign _ _ missing
      assigned fallbacks shared complete =>
    obtain ⟨number', counts', left', before, last, alike', fewer', -, past, asked', further⟩ :=
      attempt_past transient inStep asked enough (Nat.le_refl _) number' counts'
    rw [past, attempt, asked'] at delayed
    simp only [hread] at delayed
    split at delayed
    case h_1 some =>
      -- with attempts left the first run would have asked for the missing ones, too
      obtain ⟨left, rfl⟩ : ∃ left', left = left' + 1 := Nat.exists_eq_add_of_le' (by omega)
      exact absurd some (complete left rfl)
    case h_2 =>
      rw [show assign (accepted known members entries) members = (assigned, fallbacks) from shared]
        at delayed
      subst delayed
      have same := Counts.uncounted_finished (alike'.trans alike) foreign fallbacks
      exact ⟨congrArg (Prod.mk _) same, further⟩

end Attempt

/-! ## All batches -/

def assessBatch (document : StrategyDocument) (settings : AssessmentSettings) (base : Nat)
    (batch : List PatentRecord) (counts : Counts) (reasoner : Reasoner) :
    Except RunError (List Assessment) × Counts × Reasoner :=
  attempt base document.elementIds (batch.map (·.id)) (Prompt.assessment document batch)
    readReply? 1 none counts (settings.maxAttempts - 1) reasoner

/-- Batches were asked about one after the other, each until something came of it. -/
inductive Rounds (document : StrategyDocument) (settings : AssessmentSettings) (base : Nat) :
    Counts → Reasoner → List Round → Reasoner → Prop
  | nil (counts : Counts) (reasoner : Reasoner) :
      Rounds document settings base counts reasoner [] reasoner
  | cons {counts counts' : Counts} {reasoner heard last : Reasoner} {round : Round}
      {rounds : List Round} {result : Except RunError (List Assessment)} :
      assessBatch document settings base round.patents counts reasoner = (result, counts', heard) →
      heard.calls = reasoner.calls ++ round.calls →
      Rounds document settings base counts' heard rounds last →
      Rounds document settings base counts reasoner (round :: rounds) last

/-- All calls were made for one of the batches. -/
theorem Rounds.calls {document : StrategyDocument} {settings : AssessmentSettings} {base : Nat}
    {counts : Counts} {reasoner last : Reasoner} {rounds : List Round}
    (asked : Rounds document settings base counts reasoner rounds last) :
    last.calls = reasoner.calls ++ rounds.flatMap (·.calls) := by
  induction asked with
  | nil => simp
  | cons _ made _ ih => rw [ih, made, List.flatMap_cons, List.append_assoc]

/-- The result of the batches with the counts, but for the numbers of attempts. -/
def uncountedBatches (batches : Except RunError (List Assessment) × Nat × Counts) :
    Except RunError (List Assessment) × Nat × Counts :=
  (batches.1, batches.2.1, batches.2.2.uncounted)

section Batches

variable (document : StrategyDocument) (settings : AssessmentSettings) (base : Nat)

theorem ofBatches_cons (begun : Nat) (counts : Counts) (batch : List PatentRecord)
    (rest : List (List PatentRecord)) (reasoner : Reasoner) :
    ofBatches (assessBatches document settings base begun counts (batch :: rest) reasoner) =
      andThen begun (assessBatches document settings base (begun + 1) · rest ·)
        (ofBatch (assessBatch document settings base batch counts reasoner)).1
        (ofBatch (assessBatch document settings base batch counts reasoner)).2 :=
  assessBatches_cons document settings base begun counts batch rest reasoner

theorem agree_assessBatch (transient : faults.Transient) (batch : List PatentRecord)
    {counts counts' : Counts} (alike : counts'.uncounted = counts.uncounted)
    {first second : Reasoner} (inStep : InStep faults first second)
    (enough : faults.Suffice (max settings.maxAttempts 1) first.calls.length
      (assessBatch document settings base batch counts first).2.2.calls.length) :
    Agree faults uncountedBatch (ofBatch (assessBatch document settings base batch counts first))
      (ofBatch (assessBatch document settings base batch counts' second)) := by
  have attempts : max settings.maxAttempts 1 = settings.maxAttempts - 1 + 1 := by omega
  rw [attempts] at enough
  exact agree_attempt transient 1 1 none counts counts' alike _ _ (Nat.le_refl _) inStep enough

theorem length_lt_assessBatches {reasoner : Reasoner} (calm : reasoner.IsCalm) (begun : Nat)
    (counts : Counts) (batch : List PatentRecord) (rest : List (List PatentRecord)) :
    reasoner.calls.length <
      (assessBatches document settings base begun counts (batch :: rest)
        reasoner).2.2.2.calls.length := by
  have first : reasoner.calls.length <
      (assessBatch document settings base batch counts reasoner).2.2.calls.length :=
    calm.length_lt (extends_ask_attempt ..)
  have further : Extends (assessBatch document settings base batch counts reasoner).2.2
      (ofBatches
        (assessBatches document settings base begun counts (batch :: rest) reasoner)).2 := by
    rw [ofBatches_cons]
    exact extends_andThen (fun counts reasoner => extends_assessBatches ..) _ _
  exact Nat.lt_of_lt_of_le first further.calls.length_le

variable {document settings base}

theorem agree_andThen {begun : Nat}
    {rest : Counts → Reasoner → Except RunError (List Assessment) × Nat × Counts × Reasoner}
    {one two : (Except RunError (List Assessment) × Counts) × Reasoner}
    (agree : Agree faults uncountedBatch one two)
    (others : ∀ assigned counts', one.1.1 = .ok assigned →
      counts'.uncounted = one.1.2.uncounted →
        Agree faults uncountedBatches (ofBatches (rest one.1.2 one.2))
          (ofBatches (rest counts' two.2))) :
    Agree faults uncountedBatches (andThen begun rest one.1 one.2)
      (andThen begun rest two.1 two.2) := by
  obtain ⟨⟨result, counts⟩, first⟩ := one
  obtain ⟨⟨result', counts'⟩, second⟩ := two
  obtain ⟨same, alike⟩ := Prod.mk.inj agree.same
  obtain rfl : result' = result := same
  cases result' with
  | error error => exact ⟨congrArg (fun counts => (_, begun + 1, counts)) alike, agree.inStep⟩
  | ok assigned =>
    have further := others assigned counts' rfl alike
    refine ⟨?_, further.inStep⟩
    obtain ⟨results, rest⟩ := Prod.mk.inj further.same
    exact Prod.ext (congrArg (Except.map (assigned ++ ·)) results) rest

theorem agree_assessBatches (transient : faults.Transient) (batches : List (List PatentRecord))
    (begun : Nat) {counts counts' : Counts} (alike : counts'.uncounted = counts.uncounted)
    {first second : Reasoner} (inStep : InStep faults first second) {rounds : List Round}
    (asked : Rounds document settings base counts first rounds
      (assessBatches document settings base begun counts batches first).2.2.2)
    (begins : rounds.map (·.patents) <+: batches)
    (within : faults.Within (max settings.maxAttempts 1) first.calls.length
      (rounds.map (·.calls.length))) :
    Agree faults uncountedBatches
      (ofBatches (assessBatches document settings base begun counts batches first))
      (ofBatches (assessBatches document settings base begun counts' batches second)) := by
  induction batches generalizing begun counts counts' first second rounds with
  | nil => exact ⟨congrArg (fun counts => (_, begun, counts)) alike, inStep⟩
  | cons batch rest ih =>
    have more := length_lt_assessBatches document settings base inStep.calm begun counts batch rest
    have ended := congrArg Prod.snd
      (ofBatches_cons document settings base begun counts batch rest first).symm
    change _ = (assessBatches document settings base begun counts (batch :: rest) first).2.2.2
      at ended
    rw [ofBatches_cons, ofBatches_cons]
    generalize (assessBatches document settings base begun counts (batch :: rest)
      first).2.2.2 = last at asked more ended
    cases asked with
    | nil => exact absurd more (Nat.lt_irrefl _)
    | @cons _ counts₁ _ heard _ round rounds result tried made others =>
      obtain ⟨rfl, others_begin⟩ := List.cons_prefix_cons.1 begins
      obtain ⟨few, within⟩ := within
      have length : heard.calls.length = first.calls.length + round.calls.length := by
        rw [made, List.length_append]
      have enough : faults.Suffice (max settings.maxAttempts 1) first.calls.length
          (assessBatch document settings base round.patents counts first).2.2.calls.length := by
        rw [tried]
        exact ⟨_, length, few⟩
      have agree := agree_assessBatch document settings base transient round.patents alike inStep
        enough
      refine agree_andThen agree fun assigned counts₂ ok alike => ?_
      rw [tried] at agree ended ok alike ⊢
      obtain rfl : result = .ok assigned := ok
      obtain rfl : (assessBatches document settings base (begun + 1) counts₁ rest heard).2.2.2 =
        last := ended
      exact ih (begun + 1) alike agree.inStep others others_begin (length ▸ within)

/-- Whatever the batches come to, the first ones of them were asked about. -/
theorem exists_rounds (batches : List (List PatentRecord)) (begun : Nat) (counts : Counts)
    (reasoner : Reasoner) :
    ∃ rounds, Rounds document settings base counts reasoner rounds
        (assessBatches document settings base begun counts batches reasoner).2.2.2 ∧
      rounds.map (·.patents) <+: batches := by
  have called {batch : List PatentRecord} {counts counts' : Counts} {reasoner heard : Reasoner}
      {result : Except RunError (List Assessment)}
      (tried : assessBatch document settings base batch counts reasoner =
        (result, counts', heard)) :
      ∃ calls, heard.calls = reasoner.calls ++ calls := by
    have further : Extends reasoner
        (assessBatch document settings base batch counts reasoner).2.2 := extends_attempt ..
    rw [tried] at further
    obtain ⟨calls, made⟩ := further.calls
    exact ⟨calls, made.symm⟩
  fun_induction assessBatches document settings base begun counts batches reasoner with
  | case1 begun counts reasoner => exact ⟨[], .nil .., List.nil_prefix⟩
  | case2 begun counts batch rest reasoner error counts' heard tried =>
    obtain ⟨calls, made⟩ := called tried
    exact ⟨[⟨batch, calls⟩], .cons tried made (.nil ..), by simp⟩
  | case3 begun counts batch rest reasoner assigned counts' heard tried error _ _ _ ofRest ih =>
    obtain ⟨calls, made⟩ := called tried
    rw [ofRest] at ih
    obtain ⟨rounds, asked, begins⟩ := ih
    exact ⟨⟨batch, calls⟩ :: rounds, .cons tried made asked, List.cons_prefix_cons.2 ⟨rfl, begins⟩⟩
  | case4 begun counts batch rest reasoner assigned counts' heard tried others _ _ _ ofRest ih =>
    obtain ⟨calls, made⟩ := called tried
    rw [ofRest] at ih
    obtain ⟨rounds, asked, begins⟩ := ih
    exact ⟨⟨batch, calls⟩ :: rounds, .cons tried made asked, List.cons_prefix_cons.2 ⟨rfl, begins⟩⟩

def batches (settings : AssessmentSettings) (patents : List PatentRecord) :
    List (List PatentRecord) :=
  chunks settings.batchSize
    ((PatentRecord.sortForAssessment (patents.filter (·.hasAbstract))).take settings.maxAssessed)

/-- The assessment ends where its batches do. -/
theorem reasoner_run (patents : List PatentRecord) (reasoner : Reasoner) :
    (run settings base document patents reasoner).2 =
      (assessBatches document settings base 0 .zero (batches settings patents)
        reasoner).2.2.2 := by
  unfold run
  dsimp only
  split
  case h_1 assessed => exact (congrArg (fun done => done.2.2.2) assessed).symm
  case h_2 assessed => exact (congrArg (fun done => done.2.2.2) assessed).symm

/-- Batches that were asked about in an assessment of patents. -/
structure Asked (settings : AssessmentSettings) (base : Nat) (document : StrategyDocument)
    (patents : List PatentRecord) (reasoner : Reasoner) (rounds : List Round) : Prop where
  done : Rounds document settings base .zero reasoner rounds
    (run settings base document patents reasoner).2
  begins : rounds.map (·.patents) <+: batches settings patents

theorem exists_asked (settings : AssessmentSettings) (base : Nat) (document : StrategyDocument)
    (patents : List PatentRecord) (reasoner : Reasoner) :
    ∃ rounds, Asked settings base document patents reasoner rounds := by
  obtain ⟨rounds, asked, begins⟩ := @exists_rounds document settings base
    (batches settings patents) 0 .zero reasoner
  exact ⟨rounds, reasoner_run patents reasoner ▸ asked, begins⟩

/-- The assessment comes to the same with faults, if the attempts for each batch suffice. -/
theorem agree_run (transient : faults.Transient) {first second : Reasoner}
    (inStep : InStep faults first second) (patents : List PatentRecord)
    (within : ∀ rounds, Asked settings base document patents first rounds →
      faults.Within (max settings.maxAttempts 1) first.calls.length
        (rounds.map (·.calls.length))) :
    Agree faults StageRun.uncounted (run settings base document patents first)
      (run settings base document patents second) := by
  obtain ⟨rounds, asked⟩ := exists_asked settings base document patents first
  have agree := agree_assessBatches transient (batches settings patents) 0 rfl inStep
    (reasoner_run patents first ▸ asked.done) asked.begins (within rounds asked)
  unfold run
  dsimp only
  unfold batches at agree
  generalize assessBatches _ _ _ _ _ _ first = one at agree ⊢
  generalize assessBatches _ _ _ _ _ _ second = two at agree ⊢
  obtain ⟨result, begun, counts, heard⟩ := one
  obtain ⟨result', begun', counts', heard'⟩ := two
  obtain ⟨same, inStep⟩ := agree
  simp only [uncountedBatches, ofBatches, Prod.mk.injEq, Counts.uncounted_inj] at same
  obtain ⟨rfl, rfl, retries, foreign, fallbacks⟩ := same
  refine ⟨?_, ?_⟩
  · cases result' <;>
      simp only [StageRun.uncounted, Metrics.uncounted, retries, foreign, fallbacks]
  · cases result' <;> exact inStep

end Batches

end Assess

end PriorArt
