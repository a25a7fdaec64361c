import PriorArt.Proofs.Assessment.Course

/-!
# An assessment of one batch goes like a stage

The assessment has a loop of its own, with rules of its own for what is missing from a reply. As
long as no reply misses anything, it does what a stage does that accepts every reply it can decode.

1. `Session.Alongside`: sessions with the same service in which calls were made at the same times.
2. `SameEnd`: results that are errors of the same kind, or none.
3. `Assess.acceptAll`: how a stage reads the replies of an assessment and accepts them all.
4. `Assess.Lockstep`: an assessment and a stage that did the same. This holds of the attempts
   (`Assess.lockstep_attempt`), and so of an assessment of one batch (`Assess.lockstep_run`).
-/

namespace PriorArt

/-! ## Sessions at the same time -/

namespace Session

variable {Question α : Type} {first second : Session Question α}

/-- The sessions are with the same service, are at the same time and made calls at the same times.
What was asked may differ. -/
structure Alongside (first second : Session Question α) : Prop where
  clock : first.clock = second.clock
  answer : first.answer = second.answer
  times : first.calls.map (·.time) = second.calls.map (·.time)

namespace Alongside

theorem refl (session : Session Question α) : session.Alongside session :=
  ⟨rfl, rfl, rfl⟩

theorem ask (alongside : first.Alongside second) {question : Question} {reply : Reply α}
    {after : Session Question α} (asked : first.ask question = (reply, after)) (other : Question) :
    ∃ follower, second.ask other = (reply, follower) ∧ after.Alongside follower := by
  have length : second.calls.length = first.calls.length := by
    simpa using (congrArg List.length alongside.times).symm
  have oneMore : (first.calls ++ [Call.mk first.clock.now question]).map (·.time) =
      (second.calls ++ [Call.mk first.clock.now other]).map (·.time) := by
    rw [List.map_append, List.map_append, alongside.times]
    rfl
  unfold Session.ask at asked ⊢
  dsimp only at asked ⊢
  rw [← alongside.clock, ← alongside.answer, length]
  by_cases cancelled : first.clock.cancelled = true
  · rw [if_pos cancelled] at asked ⊢
    cases asked
    exact ⟨_, rfl, alongside⟩
  rw [if_neg cancelled] at asked ⊢
  by_cases cancels : (first.answer first.calls.length).cancels = true
  · rw [if_pos cancels] at asked ⊢
    cases asked
    exact ⟨_, rfl, rfl, rfl, oneMore⟩
  · rw [if_neg cancels] at asked ⊢
    cases asked
    exact ⟨_, rfl, rfl, rfl, oneMore⟩

theorem sleep (alongside : first.Alongside second) {duration : Nat} {reached : Bool}
    {after : Session Question α} (slept : first.sleep duration = (reached, after)) :
    ∃ follower, second.sleep duration = (reached, follower) ∧ after.Alongside follower := by
  unfold Session.sleep at slept ⊢
  rw [← alongside.clock]
  generalize first.clock.sleep duration = waited at slept ⊢
  cases slept
  exact ⟨_, rfl, rfl, alongside.answer, alongside.times⟩

end Alongside

end Session

/-! ## Ends of the same kind -/

/-- Neither result is an error, or both are errors of the same kind: the same failure of the
service, if it is one. -/
inductive SameEnd {α β : Type} : Except RunError α → Except RunError β → Prop
  | ok (value : α) (other : β) : SameEnd (.ok value) (.ok other)
  | cancelled : SameEnd (.error .cancelled) (.error .cancelled)
  | provider (failure : Failure) :
      SameEnd (.error (.provider failure)) (.error (.provider failure))
  | content (stage other : Stage) (defect otherDefect : ContentDefect) :
      SameEnd (.error (.content stage defect)) (.error (.content other otherDefect))

namespace SameEnd

variable {α β γ : Type} {result : Except RunError β}

/-- It does not matter what the value is. -/
theorem of_ok {value : α} (same : SameEnd (.ok value) result) (other : γ) :
    SameEnd (.ok other) result := by
  cases same
  exact .ok ..

theorem of_error {error : RunError}
    (same : SameEnd (.error error : Except RunError α) result) :
    SameEnd (.error error : Except RunError γ) result := by
  cases same
  · exact .cancelled
  · exact .provider _
  · exact .content ..

end SameEnd

namespace Assess

/-! ## A stage that accepts every reply -/

section Read

variable {α : Type} (make : List Assessment → α) {reply : String}

/-- Reads the assessments in a reply, makes something of them and never refuses it. -/
def acceptAll (json : Json) : Option (Except Violation α) :=
  (replyOfJson? json).map fun entries => .ok (make entries)

theorem bind_acceptAll (json : Option Json) :
    json.bind (acceptAll make) =
      (json.bind replyOfJson?).map fun entries => .ok (make entries) := by
  cases json <;> rfl

/-- A reply that cannot be read is of no use to the stage either. -/
theorem readReply_of_unreadable (unreadable : readReply? reply = none) :
    ∃ defect, Stage.readReply (acceptAll make) reply = .error defect := by
  unfold Stage.readReply
  dsimp only
  split
  · exact ⟨_, rfl⟩
  · rw [bind_acceptAll make, ← readReply?, unreadable]
    exact ⟨_, rfl⟩

/-- A reply that can be read is accepted. It is not blank, which a stage would find fault with
before it reads anything. -/
theorem readReply_of_readable {entries : List Assessment}
    (readable : readReply? reply = some entries) :
    Stage.readReply (acceptAll make) reply = .ok (make entries) := by
  have given : ¬ (Text.unfence reply).isEmpty = true := by
    intro empty
    have nothing : Json.read? "" = none := by decide
    rw [readReply?, String.isEmpty_iff.1 empty, nothing] at readable
    cases readable
  unfold Stage.readReply
  dsimp only
  rw [if_neg given, bind_acceptAll make, ← readReply?, readable]
  rfl

end Read

/-! ## The attempts -/

/-- All replies that are still to come and can be read mention every member of the batch. -/
def Covers (members : List String) (reasoner : Reasoner) : Prop :=
  ∀ n, reasoner.calls.length ≤ n → ∀ reply entries, (reasoner.answer n).result = .ok reply →
    readReply? reply = some entries → Mentions members entries

namespace Covers

variable {members : List String} {before after : Reasoner}

theorem of_extends (covers : Covers members before) (further : Session.Extends before after) :
    Covers members after := by
  intro n later reply entries replied
  rw [further.answer] at replied
  exact covers n (further.calls.length_le.trans later) reply entries replied

theorem of_ask (covers : Covers members before) {question : String} {reply : Reply String}
    (asked : before.ask question = (reply, after)) : Covers members after := by
  have further := before.extends_ask question
  rw [asked] at further
  exact covers.of_extends further

theorem of_sleep (covers : Covers members before) {duration : Nat} {reached : Bool}
    (slept : before.sleep duration = (reached, after)) : Covers members after :=
  covers.of_extends (Session.Extends.ofSleep slept)

theorem mentions (covers : Covers members before) {question reply : String}
    (asked : before.ask question = (.answered reply, after)) {entries : List Assessment}
    (readable : readReply? reply = some entries) : Mentions members entries :=
  covers _ (Nat.le_refl _) reply entries (Session.result_of_answered asked) readable

end Covers

/-- An assessment made as many calls as a stage, at the same times, counted them alike and ended
alike. -/
structure Lockstep {α β : Type} (result : Except RunError α) (metrics : Metrics) (after : Reasoner)
    (done : StageRun β × Reasoner) : Prop where
  alongside : after.Alongside done.2
  metrics : metrics = done.1.metrics
  ends : SameEnd result done.1.output

/-- The attempts of both loops go in step. The prompts and the feedback differ. -/
theorem lockstep_attempt {α : Type} (make : List Assessment → α) (stage : Stage) {base : Nat}
    {known members : List String} {prompt : String} (plain : String) {number : Nat}
    {feedback : Option String} {counts : Counts} {left : Nat} {reasoner : Reasoner}
    (covers : Covers members reasoner) :
    let done := attempt base known members prompt readReply? number feedback counts left reasoner
    ∀ follower correction, reasoner.Alongside follower →
      Lockstep done.1 done.2.1.metrics done.2.2
        (Stage.attempt stage base plain (Stage.readReply (acceptAll make)) number correction
          counts.metrics left follower) := by
  intro done
  subst done
  fun_induction attempt base known members prompt readReply? number feedback counts left
    reasoner with
  | case1 left number feedback counts reasoner attempted heard asked =>
    intro follower correction alongside
    obtain ⟨heardToo, askedToo, level⟩ := alongside.ask asked (Stage.promptWith plain correction)
    rw [Stage.attempt, askedToo]
    exact ⟨level, rfl, .cancelled⟩
  | case2 number feedback counts reasoner attempted failure heard asked left passes again later
      slept ih =>
    intro follower correction alongside
    obtain ⟨heardToo, askedToo, level⟩ := alongside.ask asked (Stage.promptWith plain correction)
    obtain ⟨laterToo, sleptToo, levelLater⟩ := level.sleep slept
    rw [Stage.attempt, askedToo]
    dsimp only
    rw [passes]
    dsimp only
    rw [sleptToo]
    exact ih ((covers.of_ask asked).of_sleep slept) laterToo correction levelLater
  | case3 number feedback counts reasoner attempted failure heard asked left passes again later
      slept =>
    intro follower correction alongside
    obtain ⟨heardToo, askedToo, level⟩ := alongside.ask asked (Stage.promptWith plain correction)
    obtain ⟨laterToo, sleptToo, levelLater⟩ := level.sleep slept
    rw [Stage.attempt, askedToo]
    dsimp only
    rw [passes]
    dsimp only
    rw [sleptToo]
    exact ⟨levelLater, rfl, .cancelled⟩
  | case4 left number feedback counts reasoner attempted failure heard asked final =>
    intro follower correction alongside
    obtain ⟨heardToo, askedToo, level⟩ := alongside.ask asked (Stage.promptWith plain correction)
    rw [Stage.attempt, askedToo]
    dsimp only
    split
    · rename_i left passes
      exact absurd passes (final left rfl)
    · exact ⟨level, rfl, .provider failure⟩
  | case5 number feedback counts reasoner attempted reply heard asked unreadable left ih =>
    intro follower correction alongside
    obtain ⟨heardToo, askedToo, level⟩ := alongside.ask asked (Stage.promptWith plain correction)
    obtain ⟨defect, useless⟩ := readReply_of_unreadable make unreadable
    rw [Stage.attempt, askedToo]
    dsimp only
    rw [useless]
    exact ih (covers.of_ask asked) heardToo (some defect.feedback) level
  | case6 number feedback counts reasoner attempted reply heard asked unreadable =>
    intro follower correction alongside
    obtain ⟨heardToo, askedToo, level⟩ := alongside.ask asked (Stage.promptWith plain correction)
    obtain ⟨defect, useless⟩ := readReply_of_unreadable make unreadable
    rw [Stage.attempt, askedToo]
    dsimp only
    rw [useless]
    exact ⟨level, rfl, .content ..⟩
  | case7 number feedback counts reasoner attempted reply heard asked entries readable dropped
      counted accepted missing left incomplete ih =>
    -- a stage accepts a reply that misses a member, but here there is none
    exact absurd (isEmpty_missing_iff.2 (covers.mentions asked readable))
      (Bool.eq_false_iff.1 incomplete)
  | case8 left number feedback counts reasoner attempted reply heard asked entries readable dropped
      counted accepted missing assigned fallbacks assigning final =>
    intro follower correction alongside
    obtain ⟨heardToo, askedToo, level⟩ := alongside.ask asked (Stage.promptWith plain correction)
    rw [Stage.attempt_of_read askedToo (readReply_of_readable make readable)]
    exact ⟨level, rfl, .ok ..⟩

/-! ## The whole assessment -/

theorem chunks_eq_singleton {α : Type} {size : Nat} {items : List α} (some : items ≠ [])
    (fits : items.length ≤ max size 1) : chunks size items = [items] := by
  cases items with
  | nil => exact absurd rfl some
  | cons item rest =>
    have all : rest.length ≤ size - 1 := by
      rw [List.length_cons] at fits
      omega
    rw [chunks, List.take_of_length_le all, List.drop_of_length_le all, chunks]

/-- **The retry loops agree.** An assessment of one batch makes as many calls as a stage, at the
same times, counts them alike and ends alike, as long as no reply that can be read misses a
member. -/
theorem lockstep_run {α : Type} {settings : AssessmentSettings} {document : StrategyDocument}
    {patents : List PatentRecord} {reasoner : Reasoner} (base : Nat)
    (some : candidates settings patents ≠ [])
    (fits : (candidates settings patents).length ≤ max settings.batchSize 1)
    (covers : Covers ((candidates settings patents).map (·.id)) reasoner)
    (stage : Stage) (prompt : String) (make : List Assessment → α) :
    let done := run settings base document patents reasoner
    Lockstep done.1.output done.1.metrics done.2
      (Stage.run stage ⟨settings.maxAttempts, base⟩ prompt (acceptAll make) reasoner) := by
  have lockstep := @lockstep_attempt α make stage base document.elementIds _
    (Prompt.assessment document (candidates settings patents)) prompt 1 none .zero
    (settings.maxAttempts - 1) reasoner covers reasoner none (.refl reasoner)
  generalize attempted : attempt base document.elementIds ((candidates settings patents).map (·.id))
    (Prompt.assessment document (candidates settings patents)) readReply? 1 none .zero
    (settings.maxAttempts - 1) reasoner = ended at lockstep
  obtain ⟨result, counts, after⟩ := ended
  have assessed : assessBatches document settings base 0 .zero
      (chunks settings.batchSize (candidates settings patents)) reasoner =
        (result, 1, counts, after) := by
    rw [chunks_eq_singleton some fits, assessBatches, attempted]
    cases result with
    | error error => rfl
    | ok assigned => simp [assessBatches]
  rw [candidates] at assessed
  unfold run
  dsimp only
  rw [assessed]
  cases result with
  | error error => exact ⟨lockstep.alongside, lockstep.metrics, lockstep.ends.of_error⟩
  | ok assigned => exact ⟨lockstep.alongside, lockstep.metrics, lockstep.ends.of_ok _⟩

/-! ### A batch that is assessed at the third attempt -/

/-- Each call takes ten milliseconds. The first reply is blank, the second call is not answered in
time, and the replies after it mention both patents. -/
def slowReasoner : Reasoner :=
  { clock := .start
    calls := []
    answer
      | 0 => ⟨10, false, .ok " "⟩
      | 1 => ⟨10, false, .error (.timeout "")⟩
      | _ => ⟨10, false, .ok "[[[\"P2\"],[\"P3\"]]]"⟩ }

theorem covers_slow : Covers ["P3", "P2"] slowReasoner := by
  intro n _ reply entries replied readable
  have blank : readReply? " " = none := by decide +kernel
  have full : ∀ entries ∈ readReply? "[[[\"P2\"],[\"P3\"]]]", Mentions ["P3", "P2"] entries := by
    decide +kernel
  rcases n with _ | _ | n
  · cases replied
    rw [blank] at readable
    cases readable
  · cases replied
  · cases replied
    exact full entries readable

theorem run_slow :
    (run stubbornSettings 1000 patchDocument patchPatents slowReasoner).2.calls.map (·.time) =
        [0, 10, 2020] ∧
      (run stubbornSettings 1000 patchDocument patchPatents slowReasoner).1.metrics =
        ⟨3, 1, 1⟩ := by
  rw [run, sortForAssessment_patch]
  decide +kernel

/-- The assessment and the stage wait after the second call, and not after the first. -/
theorem lockstep_run_slow :
    (candidates stubbornSettings patchPatents).map (·.id) = ["P3", "P2"] ∧
    Covers ["P3", "P2"] slowReasoner ∧
    (run stubbornSettings 1000 patchDocument patchPatents slowReasoner).2.calls.map (·.time) =
      [0, 10, 2020] ∧
    (run stubbornSettings 1000 patchDocument patchPatents slowReasoner).1.metrics = ⟨3, 1, 1⟩ ∧
    Lockstep (run stubbornSettings 1000 patchDocument patchPatents slowReasoner).1.output
      (run stubbornSettings 1000 patchDocument patchPatents slowReasoner).1.metrics
      (run stubbornSettings 1000 patchDocument patchPatents slowReasoner).2
      (Stage.run .landscape ⟨3, 1000⟩ "Assess." (acceptAll List.length) slowReasoner) := by
  have ids : (candidates stubbornSettings patchPatents).map (·.id) = ["P3", "P2"] := by
    rw [candidates, sortForAssessment_patch]
    rfl
  have length := congrArg List.length ids
  rw [List.length_map] at length
  obtain ⟨times, metrics⟩ := run_slow
  refine ⟨ids, covers_slow, times, metrics, ?_⟩
  exact lockstep_run 1000 (List.ne_nil_of_length_eq_add_one length)
    (length ▸ Nat.le_refl 2) (ids ▸ covers_slow) .landscape "Assess." List.length

end Assess

end PriorArt
