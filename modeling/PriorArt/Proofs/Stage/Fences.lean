import PriorArt.Proofs.Replies
import PriorArt.Proofs.Text.Fence

/-!
# Fences around replies

It makes no difference to a stage whether a reply is fenced.

1. `Text.Carries`: a text with nothing but a fence and blank space around it. `Text.SameBody`: two
   replies that carry the same text.
2. `Session.Echoes`: sessions in which the same was asked at the same times, with services whose
   replies are of the same kind.
3. `Stage.echoes_run`, `Assess.echoes_run`: sessions with replies in which the same is read have the
   same course, in a stage and in an assessment. Each step asks the same question again, since
   feedback depends on what was read alone.
4. `Text.unfence_transparent`: what is taken away with a fence, and that no stage notices.
-/

namespace PriorArt

/-! ## Replies with the same text -/

namespace Text

/-- A text that is trimmed and does not begin with the mark of a fence. -/
structure IsPlain (body : String) : Prop where
  trimmed : trim body = body
  unmarked : ¬ fenceMark <+: body.toList

/-- The reply is the text, with blank space around it and perhaps a fence between the two. -/
inductive Carries (body : String) : String → Prop
  | bare {before after : String} :
      isBlankText before = true → isBlankText after = true →
      Carries body (before ++ body ++ after)
  | fenced {note before after : String} :
      '\n' ∉ note.toList → isBlankText before = true → isBlankText after = true →
      Carries body (before ++ fenced note body ++ after)

/-- The replies are the same, but for fences and blank space around them. -/
inductive SameBody : String → String → Prop
  | refl (reply : String) : SameBody reply reply
  | carried {body reply other : String} :
      IsPlain body → Carries body reply → Carries body other → SameBody reply other

theorem unfence_of_carries {body reply : String} (plain : IsPlain body)
    (carries : Carries body reply) : unfence reply = body := by
  cases carries with
  | bare blankBefore blankAfter =>
    exact unfence_bare plain.trimmed plain.unmarked blankBefore blankAfter
  | fenced oneLine blankBefore blankAfter =>
    exact unfence_fenced plain.trimmed oneLine blankBefore blankAfter

theorem SameBody.unfence_eq {reply other : String} (same : SameBody reply other) :
    unfence reply = unfence other := by
  cases same with
  | refl => rfl
  | carried plain carries carriesToo =>
    rw [unfence_of_carries plain carries, unfence_of_carries plain carriesToo]

end Text

/-! ## Sessions with replies of the same kind -/

section Echoes

variable {Question α : Type} {same : α → α → Prop}

/-- Both results are the same failure, or they are values of the same kind. -/
inductive SameResult (same : α → α → Prop) : Except Failure α → Except Failure α → Prop
  | error (failure : Failure) : SameResult same (.error failure) (.error failure)
  | ok {value other : α} : same value other → SameResult same (.ok value) (.ok other)

/-- What became of a call is the same, or the replies are of the same kind. -/
inductive Reply.Echoes (same : α → α → Prop) : Reply α → Reply α → Prop
  | cancelled : Reply.Echoes same .cancelled .cancelled
  | failed (failure : Failure) : Reply.Echoes same (.failed failure) (.failed failure)
  | answered {value other : α} : same value other →
      Reply.Echoes same (.answered value) (.answered other)

/-- The answers differ in their values only, and these are of the same kind. -/
structure Answer.Echoes (same : α → α → Prop) (first second : Answer α) : Prop where
  delay : first.delay = second.delay
  cancels : first.cancels = second.cancels
  result : SameResult same first.result second.result

namespace Session

/-- The same was asked at the same times, and the services give replies of the same kind. -/
structure Echoes (same : α → α → Prop) (first second : Session Question α) : Prop where
  clock : first.clock = second.clock
  calls : first.calls = second.calls
  answers : ∀ n, (first.answer n).Echoes same (second.answer n)

namespace Echoes

variable {first second : Session Question α}

theorem ask (echoes : first.Echoes same second) {question : Question} {reply : Reply α}
    {after : Session Question α} (asked : first.ask question = (reply, after)) :
    ∃ other follower, second.ask question = (other, follower) ∧ reply.Echoes same other ∧
      after.Echoes same follower := by
  have answer := echoes.answers second.calls.length
  unfold Session.ask at asked ⊢
  dsimp only at asked ⊢
  rw [echoes.clock, echoes.calls] at asked
  by_cases cancelled : second.clock.cancelled = true
  · rw [if_pos cancelled] at asked ⊢
    cases asked
    exact ⟨_, _, rfl, .cancelled, echoes⟩
  rw [if_neg cancelled] at asked ⊢
  rw [answer.cancels, answer.delay] at asked
  by_cases cancels : (second.answer second.calls.length).cancels = true
  · rw [if_pos cancels] at asked ⊢
    cases asked
    exact ⟨_, _, rfl, .cancelled, rfl, rfl, echoes.answers⟩
  rw [if_neg cancels] at asked ⊢
  generalize second.clock.sleep (second.answer second.calls.length).delay = waited at asked ⊢
  obtain ⟨reached, clock⟩ := waited
  cases asked
  refine ⟨_, _, rfl, ?_, rfl, rfl, echoes.answers⟩
  cases reached with
  | false => exact .cancelled
  | true =>
    have result := answer.result
    dsimp only
    rw [if_pos rfl, if_pos rfl]
    generalize (first.answer second.calls.length).result = one at result ⊢
    generalize (second.answer second.calls.length).result = two at result ⊢
    cases result with
    | error failure => exact .failed failure
    | ok alike => exact .answered alike

theorem ask_answered (echoes : first.Echoes same second) {question : Question} {value : α}
    {after : Session Question α} (asked : first.ask question = (.answered value, after)) :
    ∃ other follower, second.ask question = (.answered other, follower) ∧ same value other ∧
      after.Echoes same follower := by
  obtain ⟨reply, follower, askedToo, related, level⟩ := echoes.ask asked
  cases related with
  | answered alike => exact ⟨_, follower, askedToo, alike, level⟩

theorem sleep (echoes : first.Echoes same second) {duration : Nat} {reached : Bool}
    {after : Session Question α} (slept : first.sleep duration = (reached, after)) :
    ∃ follower, second.sleep duration = (reached, follower) ∧ after.Echoes same follower := by
  unfold Session.sleep at slept ⊢
  rw [echoes.clock] at slept
  generalize second.clock.sleep duration = waited at slept ⊢
  cases slept
  exact ⟨_, rfl, rfl, echoes.calls, echoes.answers⟩

end Echoes

/-- Both runs have the same result, and their sessions still echo each other. -/
structure SameCourse {β : Type} (same : α → α → Prop) (one two : β × Session Question α) :
    Prop where
  result : one.1 = two.1
  echoes : one.2.Echoes same two.2

end Session

end Echoes

open Session

/-! ## Stages -/

namespace Stage

variable {α : Type} {same : String → String → Prop} {stage : Stage}

theorem readReply_of_unfence {accept : Json → Option (Except Violation α)} {reply other : String}
    (alike : Text.unfence reply = Text.unfence other) :
    readReply accept reply = readReply accept other := by
  unfold readReply
  rw [alike]

theorem echoes_attempt {base : Nat} {prompt : String} {read : String → Except ContentDefect α}
    (reads : ∀ reply other, same reply other → read reply = read other) (number : Nat)
    (feedback : Option String) (metrics : Metrics) (left : Nat) (first : Reasoner) :
    ∀ second, first.Echoes same second →
      SameCourse same (attempt stage base prompt read number feedback metrics left first)
        (attempt stage base prompt read number feedback metrics left second) := by
  fun_induction attempt stage base prompt read number feedback metrics left first with
  | case1 left number feedback metrics first attempted heard asked =>
    intro second echoes
    obtain ⟨_, heardToo, askedToo, ⟨⟩, level⟩ := echoes.ask asked
    rw [attempt, askedToo]
    exact ⟨rfl, level⟩
  | case2 number feedback metrics first attempted failure heard asked left passes again later slept
      ih =>
    intro second echoes
    obtain ⟨_, heardToo, askedToo, ⟨⟩, level⟩ := echoes.ask asked
    obtain ⟨laterToo, sleptToo, levelLater⟩ := level.sleep slept
    rw [attempt.eq_def _ _ _ _ _ _ _ _ second, askedToo]
    simp only [passes, sleptToo]
    exact ih laterToo levelLater
  | case3 number feedback metrics first attempted failure heard asked left passes again later
      slept =>
    intro second echoes
    obtain ⟨_, heardToo, askedToo, ⟨⟩, level⟩ := echoes.ask asked
    obtain ⟨laterToo, sleptToo, levelLater⟩ := level.sleep slept
    rw [attempt, askedToo]
    simp only [passes, sleptToo]
    exact ⟨rfl, levelLater⟩
  | case4 left number feedback metrics first attempted failure heard asked final =>
    intro second echoes
    obtain ⟨_, heardToo, askedToo, ⟨⟩, level⟩ := echoes.ask asked
    rw [attempt, askedToo]
    dsimp only
    split
    · next left passes => exact absurd passes (final left rfl)
    · exact ⟨rfl, level⟩
  | case5 left number feedback metrics first attempted reply heard asked value accepted =>
    intro second echoes
    obtain ⟨other, heardToo, askedToo, alike, level⟩ := echoes.ask_answered asked
    rw [reads _ _ alike] at accepted
    rw [attempt, askedToo]
    simp only [accepted]
    exact ⟨rfl, level⟩
  | case6 number feedback metrics first attempted reply heard asked defect refused left ih =>
    intro second echoes
    obtain ⟨other, heardToo, askedToo, alike, level⟩ := echoes.ask_answered asked
    rw [reads _ _ alike] at refused
    rw [attempt.eq_def _ _ _ _ _ _ _ _ second, askedToo]
    simp only [refused]
    exact ih heardToo level
  | case7 number feedback metrics first attempted reply heard asked defect refused =>
    intro second echoes
    obtain ⟨other, heardToo, askedToo, alike, level⟩ := echoes.ask_answered asked
    rw [reads _ _ alike] at refused
    rw [attempt, askedToo]
    simp only [refused]
    exact ⟨rfl, level⟩

/-- A stage has the same course where the replies are the same between their fences. -/
theorem echoes_run (alike : ∀ reply other, same reply other →
      Text.unfence reply = Text.unfence other)
    (budget : RetryBudget) (prompt : String) (accept : Json → Option (Except Violation α))
    {first second : Reasoner} (echoes : first.Echoes same second) :
    SameCourse same (run stage budget prompt accept first)
      (run stage budget prompt accept second) :=
  echoes_attempt (fun reply other related => readReply_of_unfence (alike reply other related))
    _ _ _ _ first second echoes

end Stage

/-! ## Assessments -/

namespace Assess

variable {same : String → String → Prop}

/-- A batch is settled alike, with the same counts, and the sessions still echo each other. -/
structure SameBatch (same : String → String → Prop)
    (one two : Except RunError (List Assessment) × Counts × Reasoner) : Prop where
  result : one.1 = two.1
  counts : one.2.1 = two.2.1
  echoes : one.2.2.Echoes same two.2.2

theorem readReply?_of_unfence {reply other : String}
    (alike : Text.unfence reply = Text.unfence other) : readReply? reply = readReply? other := by
  rw [readReply?, readReply?, alike]

theorem echoes_attempt {base : Nat} {known members : List String} {prompt : String}
    {read : String → Option (List Assessment)}
    (reads : ∀ reply other, same reply other → read reply = read other) (number : Nat)
    (feedback : Option String) (counts : Counts) (left : Nat) (first : Reasoner) :
    ∀ second, first.Echoes same second →
      SameBatch same (attempt base known members prompt read number feedback counts left first)
        (attempt base known members prompt read number feedback counts left second) := by
  fun_induction attempt base known members prompt read number feedback counts left first with
  | case1 left number feedback counts first attempted heard asked =>
    intro second echoes
    obtain ⟨_, heardToo, askedToo, ⟨⟩, level⟩ := echoes.ask asked
    rw [attempt, askedToo]
    exact ⟨rfl, rfl, level⟩
  | case2 number feedback counts first attempted failure heard asked left passes again later slept
      ih =>
    intro second echoes
    obtain ⟨_, heardToo, askedToo, ⟨⟩, level⟩ := echoes.ask asked
    obtain ⟨laterToo, sleptToo, levelLater⟩ := level.sleep slept
    rw [attempt.eq_def _ _ _ _ _ _ _ _ _ second, askedToo]
    simp only [passes, sleptToo]
    exact ih laterToo levelLater
  | case3 number feedback counts first attempted failure heard asked left passes again later
      slept =>
    intro second echoes
    obtain ⟨_, heardToo, askedToo, ⟨⟩, level⟩ := echoes.ask asked
    obtain ⟨laterToo, sleptToo, levelLater⟩ := level.sleep slept
    rw [attempt, askedToo]
    simp only [passes, sleptToo]
    exact ⟨rfl, rfl, levelLater⟩
  | case4 left number feedback counts first attempted failure heard asked final =>
    intro second echoes
    obtain ⟨_, heardToo, askedToo, ⟨⟩, level⟩ := echoes.ask asked
    rw [attempt, askedToo]
    dsimp only
    split
    · next left passes => exact absurd passes (final left rfl)
    · exact ⟨rfl, rfl, level⟩
  | case5 number feedback counts first attempted reply heard asked unreadable left ih =>
    intro second echoes
    obtain ⟨other, heardToo, askedToo, alike, level⟩ := echoes.ask_answered asked
    rw [reads _ _ alike] at unreadable
    rw [attempt.eq_def _ _ _ _ _ _ _ _ _ second, askedToo]
    simp only [unreadable]
    exact ih heardToo level
  | case6 number feedback counts first attempted reply heard asked unreadable =>
    intro second echoes
    obtain ⟨other, heardToo, askedToo, alike, level⟩ := echoes.ask_answered asked
    rw [reads _ _ alike] at unreadable
    rw [attempt, askedToo]
    simp only [unreadable]
    exact ⟨rfl, rfl, level⟩
  | case7 number feedback counts first attempted reply heard asked entries readable foreign counted
      accepted missing left incomplete ih =>
    intro second echoes
    obtain ⟨other, heardToo, askedToo, alike, level⟩ := echoes.ask_answered asked
    rw [reads _ _ alike] at readable
    rw [attempt.eq_def _ _ _ _ _ _ _ _ _ second, askedToo]
    simp only [readable]
    rw [incomplete]
    exact ih heardToo level
  | case8 left number feedback counts first attempted reply heard asked entries readable foreign
      counted accepted missing assigned fallbacks assigning final =>
    intro second echoes
    obtain ⟨other, heardToo, askedToo, alike, level⟩ := echoes.ask_answered asked
    rw [reads _ _ alike] at readable
    rw [attempt, askedToo]
    simp only [readable]
    split
    · next left incomplete => exact absurd incomplete (final left rfl)
    · rw [assigning]
      exact ⟨rfl, rfl, level⟩

theorem echoes_assessBatches (alike : ∀ reply other, same reply other →
      Text.unfence reply = Text.unfence other)
    (document : StrategyDocument) (settings : AssessmentSettings) (base : Nat)
    (batches : List (List PatentRecord)) {begun ended : Nat} {counts counted : Counts}
    {first second after : Reasoner} {result : Except RunError (List Assessment)}
    (echoes : first.Echoes same second)
    (assessed : assessBatches document settings base begun counts batches first =
      (result, ended, counted, after)) :
    ∃ follower, assessBatches document settings base begun counts batches second =
      (result, ended, counted, follower) ∧ after.Echoes same follower := by
  induction batches generalizing begun ended counts counted first second after result with
  | nil =>
    cases assessed
    exact ⟨second, rfl, echoes⟩
  | cons batch rest ih =>
    have settled : SameBatch same
        (attempt base document.elementIds (batch.map (·.id)) (Prompt.assessment document batch)
          readReply? 1 none counts (settings.maxAttempts - 1) first)
        (attempt base document.elementIds (batch.map (·.id)) (Prompt.assessment document batch)
          readReply? 1 none counts (settings.maxAttempts - 1) second) :=
      echoes_attempt (fun reply other related => readReply?_of_unfence (alike reply other related))
        1 none counts _ first second echoes
    rw [assessBatches] at assessed ⊢
    generalize attempt base document.elementIds (batch.map (·.id))
      (Prompt.assessment document batch) readReply? 1 none counts (settings.maxAttempts - 1)
      first = one at assessed settled
    generalize attempt base document.elementIds (batch.map (·.id))
      (Prompt.assessment document batch) readReply? 1 none counts (settings.maxAttempts - 1)
      second = two at settled ⊢
    obtain ⟨outcome, counts, heard⟩ := one
    obtain ⟨outcomeToo, countsToo, heardToo⟩ := two
    obtain ⟨rfl, rfl, level⟩ := settled
    cases outcome with
    | error error =>
      cases assessed
      exact ⟨heardToo, rfl, level⟩
    | ok assigned =>
      dsimp only at assessed ⊢
      generalize others : assessBatches document settings base (begun + 1) counts rest heard =
        followed at assessed
      obtain ⟨outcome, endedRest, countedRest, last⟩ := followed
      obtain ⟨follower, same, levelLast⟩ := ih level others
      rw [same]
      cases outcome with
      | error error =>
        cases assessed
        exact ⟨follower, rfl, levelLast⟩
      | ok assignedRest =>
        cases assessed
        exact ⟨follower, rfl, levelLast⟩

/-- An assessment has the same course where the replies are the same between their fences. -/
theorem echoes_run (alike : ∀ reply other, same reply other →
      Text.unfence reply = Text.unfence other)
    (settings : AssessmentSettings) (base : Nat) (document : StrategyDocument)
    (patents : List PatentRecord) {first second : Reasoner} (echoes : first.Echoes same second) :
    SameCourse same (run settings base document patents first)
      (run settings base document patents second) := by
  unfold run
  dsimp only
  generalize assessed : assessBatches document settings base 0 .zero _ first = ended
  obtain ⟨outcome, batches, counts, after⟩ := ended
  obtain ⟨follower, assessedToo, level⟩ :=
    echoes_assessBatches alike document settings base _ echoes assessed
  rw [assessedToo]
  cases outcome with
  | error error => exact ⟨rfl, level⟩
  | ok assigned => exact ⟨rfl, level⟩

end Assess

/-! ## Fences are transparent -/

namespace Text

/-- **Fences are transparent.** Of a fenced text everything but the text is taken away, and of a
text that does not begin with a mark everything but the blank space around it. So it makes no
difference to a stage or an assessment whether a reply is fenced. -/
theorem unfence_transparent :
    (∀ body note before after : String, trim body = body → '\n' ∉ note.toList →
      isBlankText before = true → isBlankText after = true →
      unfence (before ++ fenced note body ++ after) = body) ∧
    (∀ body before after : String, IsPlain body →
      isBlankText before = true → isBlankText after = true →
      unfence (before ++ body ++ after) = body) ∧
    (∀ (α : Type) (stage : Stage) (budget : RetryBudget) (prompt : String)
      (accept : Json → Option (Except Violation α)) (first second : Reasoner),
      first.Echoes SameBody second →
      SameCourse SameBody (Stage.run stage budget prompt accept first)
        (Stage.run stage budget prompt accept second)) ∧
    (∀ (base : Nat) (known members : List String) (prompt : String) (number : Nat)
      (feedback : Option String) (counts : Assess.Counts) (left : Nat) (first second : Reasoner),
      first.Echoes SameBody second →
      Assess.SameBatch SameBody
        (Assess.attempt base known members prompt Assess.readReply? number feedback counts left
          first)
        (Assess.attempt base known members prompt Assess.readReply? number feedback counts left
          second)) ∧
    ∀ (settings : AssessmentSettings) (base : Nat) (document : StrategyDocument)
      (patents : List PatentRecord) (first second : Reasoner),
      first.Echoes SameBody second →
      SameCourse SameBody (Assess.run settings base document patents first)
        (Assess.run settings base document patents second) := by
  have alike : ∀ reply other, SameBody reply other → unfence reply = unfence other :=
    fun _ _ same => same.unfence_eq
  refine ⟨?_, ?_, ?_, ?_, ?_⟩
  · intro body note before after trimmed oneLine blankBefore blankAfter
    exact unfence_fenced trimmed oneLine blankBefore blankAfter
  · intro body before after plain blankBefore blankAfter
    exact unfence_bare plain.trimmed plain.unmarked blankBefore blankAfter
  · intro α stage budget prompt accept first second echoes
    exact Stage.echoes_run alike budget prompt accept echoes
  · intro base known members prompt number feedback counts left first second echoes
    exact Assess.echoes_attempt
      (fun reply other same => Assess.readReply?_of_unfence (alike reply other same))
      number feedback counts left first second echoes
  · intro settings base document patents first second echoes
    exact Assess.echoes_run alike settings base document patents echoes

/-! ### A reply that ends with a mark of its own, and one that is fenced -/

/-- Each reply is an empty array, with blank space around it. -/
def bareReasoner : Reasoner :=
  { clock := .start
    calls := []
    answer := fun _ => ⟨10, false, .ok (" " ++ "[]" ++ "\n")⟩ }

/-- Each reply is an empty array between the lines of a fence. -/
def fencingReasoner : Reasoner :=
  { bareReasoner with
    answer := fun _ => ⟨10, false, .ok ("" ++ fenced "json" "[]" ++ "\n\n")⟩ }

theorem isPlain_array : IsPlain "[]" where
  trimmed := by decide
  unmarked := by decide

theorem echoes_bare : bareReasoner.Echoes SameBody fencingReasoner where
  clock := rfl
  calls := rfl
  answers := fun _ =>
    { delay := rfl
      cancels := rfl
      result := .ok (.carried isPlain_array (.bare (by decide) (by decide))
        (.fenced (by decide) (by decide) (by decide))) }

theorem unfence_transparent_array :
    unfence ("\u3000\n" ++ fenced "json title=1" "[1]\n\n\x60\x60\x60" ++ " \n") =
        "[1]\n\n\x60\x60\x60" ∧
      unfence (" " ++ "[]" ++ "\n") = "[]" ∧
      SameCourse SameBody
        (Stage.run .landscape ⟨2, 1000⟩ "Analyse." (fun json => some (.ok json.items?.isSome))
          bareReasoner)
        (Stage.run .landscape ⟨2, 1000⟩ "Analyse." (fun json => some (.ok json.items?.isSome))
          fencingReasoner) :=
  ⟨unfence_transparent.1 _ _ _ _ (by decide) (by decide) (by decide) (by decide),
    unfence_transparent.2.1 _ _ _ isPlain_array (by decide) (by decide),
    unfence_transparent.2.2.1 _ _ _ _ _ _ _ echoes_bare⟩

end Text

end PriorArt
