import PriorArt.Proofs.Assessment.Batches
import PriorArt.Proofs.Cancellation.Session

/-!
# What is asked about the batches

1. `Prompt.Lists`: a text has the identifier, the title, the shortened abstract and the other lines
   on a patent. The prompt for a batch lists each of its patents (`Prompt.lists_assessment`).
2. `Assess.Feedback`: what is said of the last reply, if anything. It never names a patent outside
   the batch.
3. `Assess.asked_of_attempt`: all calls for a batch have the prompt of the batch, with feedback, and
   so they list its patents (`Assess.IsPrompt.lists`).
4. `Assess.Round`: a batch with the calls made for it. An assessment that has a result is made of
   one round for each batch, in their order (`Assess.rounds_of_assessBatches`).
-/

namespace PriorArt

namespace Prompt

theorem exists_concat_eq {texts : List String} {text : String} (member : text ∈ texts) :
    ∃ before after, concat texts = before ++ text ++ after := by
  obtain ⟨before, after, rfl⟩ := List.append_of_mem member
  exact ⟨concat before, concat after, by
    simp only [concat, String.join_append, String.join_cons, String.append_assoc]⟩

/-- A text has the lines on a patent: its position in the batch, its identifier, its title, the
first 600 characters of its abstract, its grant date and its assignee. -/
def Lists (text : String) (position : Nat) (patent : PatentRecord) : Prop :=
  ∃ before after, text = before ++
    ("INDEX: " ++ toString position ++ "\nPATENT_ID: " ++ patent.id ++ "\nTITLE: " ++ patent.title ++
      "\nABSTRACT: " ++ Text.clamp 600 patent.abstractText ++ "\nGRANT_DATE: " ++
      patent.grantDate ++ "\nASSIGNEE: " ++ patent.primaryAssignee ++ "\n\n") ++ after

theorem lists_patentLines (position : Nat) (patent : PatentRecord) :
    Lists (patentLines position patent) position patent :=
  ⟨"", "", by
    simp only [patentLines, concat, String.join_cons, String.join_nil, mostAbstract,
      String.append_assoc, String.append_empty, String.empty_append]⟩

theorem Lists.within {text : String} {position : Nat} {patent : PatentRecord}
    (lists : Lists text position patent) (before after : String) :
    Lists (before ++ text ++ after) position patent := by
  obtain ⟨inner, outer, rfl⟩ := lists
  exact ⟨before ++ inner, outer ++ after, by simp only [String.append_assoc]⟩

theorem lists_assessment (document : StrategyDocument) {batch : List PatentRecord}
    {position : Nat} {patent : PatentRecord} (found : batch[position]? = some patent) :
    Lists (assessment document batch) position patent := by
  have inBatch : patentLines position patent ∈ batch.mapIdx patentLines := by
    refine List.mem_iff_getElem?.2 ⟨position, ?_⟩
    rw [List.getElem?_mapIdx, found, Option.map_some]
  obtain ⟨inner, outer, lines⟩ := exists_concat_eq inBatch
  obtain ⟨before, after, whole⟩ : ∃ before after, assessment document batch =
      before ++ concat (batch.mapIdx patentLines) ++ after := exists_concat_eq (by simp)
  rw [whole, lines]
  exact ((lists_patentLines position patent).within inner outer).within before after

end Prompt

namespace Assess

/-! ## The calls for one batch -/

/-- What a model may be told of its last reply: nothing, that it was no JSON, or which members of
the batch were missing. -/
inductive Feedback (members : List String) : Option String → Prop
  | none : Feedback members none
  | invalidJson : Feedback members (some ContentDefect.invalidJson.feedback)
  | missing {missing : List String} : missing ≠ [] → missing.Sublist members →
      Feedback members (some (missingFeedback missing))

/-- A question is the prompt for the members of a batch, with feedback. -/
def IsPrompt (members : List String) (prompt question : String) : Prop :=
  ∃ feedback, Feedback members feedback ∧ question = Stage.promptWith prompt feedback

theorem IsPrompt.lists {members : List String} {prompt question : String} {position : Nat}
    {patent : PatentRecord} (isPrompt : IsPrompt members prompt question)
    (lists : Prompt.Lists prompt position patent) : Prompt.Lists question position patent := by
  obtain ⟨feedback, -, rfl⟩ := isPrompt
  cases feedback with
  | none => exact lists
  | some feedback =>
    simpa only [Stage.promptWith, String.empty_append, String.append_assoc] using
      lists.within "" ("\n\n" ++ feedback)

/-- A session came from one to the other by calls for a batch. -/
structure AskedFor (members : List String) (prompt : String) (before after : Reasoner)
    (calls : List (Call String)) : Prop where
  made : after.calls = before.calls ++ calls
  prompts : ∀ call ∈ calls, IsPrompt members prompt call.question

section Attempt

variable {known members : List String} {prompt : String}

namespace AskedFor

variable {feedback : Option String} {reasoner heard after : Reasoner} {reply : Reply String}
  {calls : List (Call String)}

theorem cons (suitable : Feedback members feedback)
    (asked : reasoner.ask (Stage.promptWith prompt feedback) = (reply, heard))
    (going : reply ≠ .cancelled) (others : AskedFor members prompt heard after calls) :
    AskedFor members prompt reasoner after
      (⟨reasoner.clock.now, Stage.promptWith prompt feedback⟩ :: calls) := by
  rcases Session.calls_of_ask asked with ⟨cancelled, -⟩ | added
  · exact absurd cancelled going
  · refine ⟨?_, List.forall_mem_cons.2 ⟨⟨feedback, suitable, rfl⟩, others.prompts⟩⟩
    rw [others.made, added, List.append_assoc]
    rfl

theorem nil (same : after.calls = reasoner.calls) :
    AskedFor members prompt reasoner after [] :=
  ⟨by rw [same, List.append_nil], by simp⟩

theorem single (suitable : Feedback members feedback)
    (asked : reasoner.ask (Stage.promptWith prompt feedback) = (reply, heard))
    (going : reply ≠ .cancelled) :
    AskedFor members prompt reasoner heard
      [⟨reasoner.clock.now, Stage.promptWith prompt feedback⟩] :=
  cons suitable asked going (nil rfl)

/-- The call during which the run was cancelled, or none. -/
theorem cancelled (suitable : Feedback members feedback)
    (asked : reasoner.ask (Stage.promptWith prompt feedback) = (reply, heard)) :
    ∃ calls, AskedFor members prompt reasoner heard calls := by
  rcases Session.calls_of_ask asked with ⟨-, same⟩ | added
  · exact ⟨[], nil same⟩
  · exact ⟨_, added, by simpa using ⟨feedback, suitable, rfl⟩⟩

theorem ofSleep {duration : Nat} {reached : Bool}
    (slept : reasoner.sleep duration = (reached, heard))
    (others : AskedFor members prompt heard after calls) :
    AskedFor members prompt reasoner after calls :=
  ⟨Session.calls_of_sleep slept ▸ others.made, others.prompts⟩

end AskedFor

/-- All calls for a batch have its prompt. There is at least one if there is a result. -/
theorem asked_of_attempt (base : Nat) (read : String → Option (List Assessment)) (number : Nat)
    {feedback : Option String} (suitable : Feedback members feedback) (counts : Counts) (left : Nat)
    (reasoner : Reasoner) :
    let done := attempt base known members prompt read number feedback counts left reasoner
    ∃ calls, AskedFor members prompt reasoner done.2.2 calls ∧
      ∀ assigned, done.1 = .ok assigned → calls ≠ [] := by
  fun_induction attempt base known members prompt read number feedback counts left reasoner with
  | case1 _ _ feedback _ reasoner _ _ asked =>
    obtain ⟨calls, made⟩ := AskedFor.cancelled suitable asked
    exact ⟨calls, made, by simp⟩
  | case2 _ _ _ _ _ failure _ asked _ _ _ _ slept ih =>
    obtain ⟨calls, made, -⟩ := ih suitable
    have going := Reply.failed_ne_cancelled (α := String) failure
    exact ⟨_, .cons suitable asked going (.ofSleep slept made), by simp⟩
  | case3 _ _ _ _ _ failure _ asked _ _ _ _ slept =>
    have going := Reply.failed_ne_cancelled (α := String) failure
    exact ⟨_, .cons suitable asked going (.ofSleep slept (.nil rfl)), by simp⟩
  | case4 _ _ _ _ _ _ failure _ asked =>
    exact ⟨_, .single suitable asked (Reply.failed_ne_cancelled failure), by simp⟩
  | case5 _ _ _ _ _ reply _ asked _ _ ih =>
    obtain ⟨calls, made, -⟩ := ih .invalidJson
    exact ⟨_, .cons suitable asked (Reply.answered_ne_cancelled reply) made, by simp⟩
  | case6 _ _ _ _ _ reply _ asked =>
    exact ⟨_, .single suitable asked (Reply.answered_ne_cancelled reply), by simp⟩
  | case7 _ _ _ _ _ reply _ asked _ _ _ _ _ missing _ incomplete ih =>
    have some : missing ≠ [] := by simpa using incomplete
    obtain ⟨calls, made, -⟩ := ih (.missing some List.filter_sublist)
    exact ⟨_, .cons suitable asked (Reply.answered_ne_cancelled reply) made, by simp⟩
  | case8 _ _ _ _ _ _ reply _ asked =>
    exact ⟨_, .single suitable asked (Reply.answered_ne_cancelled reply), by simp⟩

end Attempt

/-! ## The calls for all batches -/

/-- A batch, and the calls made for it. -/
structure Round where
  patents : List PatentRecord
  calls : List (Call String)

/-- There are calls for the batch, and each has the prompt for its patents, which lists each of
them at its position. -/
structure Round.Asks (document : StrategyDocument) (round : Round) : Prop where
  called : round.calls ≠ []
  prompts : ∀ call ∈ round.calls,
    IsPrompt (round.patents.map (·.id)) (Prompt.assessment document round.patents) call.question
  lists : ∀ call ∈ round.calls, ∀ position patent, round.patents[position]? = some patent →
    Prompt.Lists call.question position patent

theorem Round.asks_of_prompts {document : StrategyDocument} {round : Round}
    (called : round.calls ≠ [])
    (prompts : ∀ call ∈ round.calls, IsPrompt (round.patents.map (·.id))
      (Prompt.assessment document round.patents) call.question) :
    round.Asks document where
  called := called
  prompts := prompts
  lists call member _ _ found :=
    (prompts call member).lists (Prompt.lists_assessment document found)

theorem rounds_of_assessBatches {document : StrategyDocument} {settings : AssessmentSettings}
    {base begun : Nat} {counts : Counts} {batches : List (List PatentRecord)}
    {reasoner : Reasoner} {assessments : List Assessment}
    (ok : (assessBatches document settings base begun counts batches reasoner).1 =
      .ok assessments) :
    ∃ rounds : List Round, rounds.map (·.patents) = batches ∧
      (∀ round ∈ rounds, round.Asks document) ∧
      (assessBatches document settings base begun counts batches reasoner).2.2.2.calls =
        reasoner.calls ++ rounds.flatMap (·.calls) := by
  fun_induction assessBatches document settings base begun counts batches reasoner
    generalizing assessments with
  | case1 => exact ⟨[], rfl, by simp, by simp⟩
  | case2 => cases ok
  | case3 => cases ok
  | case4 begun counts batch rest reasoner assigned _ heard ofBatch others _ _ _ ofRest ih =>
    rw [ofRest] at ih
    obtain ⟨rounds, partition, asks, made⟩ := ih rfl
    obtain ⟨calls, ofCalls, called⟩ := asked_of_attempt base readReply? 1 .none counts
      (settings.maxAttempts - 1) reasoner
    rw [ofBatch] at ofCalls called
    refine ⟨⟨batch, calls⟩ :: rounds, by rw [List.map_cons, partition], ?_, ?_⟩
    · exact List.forall_mem_cons.2 ⟨Round.asks_of_prompts (called _ rfl) ofCalls.prompts, asks⟩
    · rw [made, ofCalls.made, List.flatMap_cons, List.append_assoc]

end Assess

end PriorArt
