import PriorArt.Proofs.Assessment.Conservation
import PriorArt.Proofs.Session.Calm

/-!
# What an assessment counts

The counters of an assessment are those of the replies it got, batch by batch, also if it failed.

1. `Assess.foreignIn`, `Assess.standInsFor`: what the replies about one batch count.
2. `Assess.Heard`: the replies that the calls for a batch got (`Assess.heard_of_attempt`).
3. `Assess.Hearing`: a batch that was begun, with its calls and replies
   (`Assess.hearings_of_assessBatches`).
4. `AssessmentOutcome.Tallies`: what an outcome says of the hearings (`Assess.tallies_of_run`).
-/

namespace PriorArt

namespace Assess

/-! ## What the replies about one batch count -/

/-- The entries of a reply, if there was a reply and it can be read. -/
def entries? : Except Failure String → Option (List Assessment)
  | .ok reply => readReply? reply
  | .error _ => none

/-- The number of entries for patents outside the batch. -/
def foreign (members : List String) (entries : List Assessment) : Nat :=
  entries.countP fun a => !members.contains (Text.trim a.patentId)

/-- The number of members of the batch for which there is no entry. -/
def missing (members : List String) (entries : List Assessment) : Nat :=
  members.countP fun id => !entries.any (Text.trim ·.patentId = id)

/-- The entries for patents outside the batch in all replies about it. -/
def foreignIn (members : List String) (replies : List (Except Failure String)) : Nat :=
  ((replies.filterMap entries?).map (foreign members)).sum

/-- The entries that settle a batch: those of the last reply. -/
def settling? (replies : List (Except Failure String)) : Option (List Assessment) :=
  replies.getLast?.bind entries?

/-- The members without an entry in the last reply. No member gets a stand-in as long as the last
reply cannot be read. -/
def standInsFor (members : List String) (replies : List (Except Failure String)) : Nat :=
  ((settling? replies).map (missing members)).getD 0

section Counting

variable {members : List String} {reply : Except Failure String}
  {replies : List (Except Failure String)}

theorem foreignIn_cons : foreignIn members (reply :: replies) =
    ((entries? reply).map (foreign members)).getD 0 + foreignIn members replies := by
  unfold foreignIn
  cases read : entries? reply with
  | none => rw [List.filterMap_cons_none read, Option.map_none, Option.getD_none, Nat.zero_add]
  | some entries =>
    rw [List.filterMap_cons_some read, List.map_cons, List.sum_cons]
    rfl

/-- The replies before the last one settle nothing. -/
theorem settling?_cons (others : replies ≠ []) : settling? (reply :: replies) = settling? replies := by
  unfold settling?
  rw [List.getLast?_cons_of_ne_nil others]

end Counting

/-! ## The assigned assessments -/

theorem lookup_filter_of_ne {α : Type} {key name : String} (differ : name ≠ key)
    (entries : List (String × α)) :
    (entries.filter fun entry => entry.1 ≠ key).lookup name = entries.lookup name := by
  induction entries with
  | nil => rfl
  | cons entry rest ih =>
    obtain ⟨other, value⟩ := entry
    by_cases same : other = key
    · rw [List.filter_cons_of_neg (by simpa using same), ih, Keyed.lookup_cons,
        if_neg (same ▸ differ)]
    · rw [List.filter_cons_of_pos (by simpa using same), Keyed.lookup_cons, Keyed.lookup_cons, ih]

/-- The stand-ins are for the members for which nothing was accepted. -/
theorem standIns_assign {accepted : List (String × Assessment)} {members : List String}
    (distinct : members.Nodup) :
    (assign accepted members).2 = members.countP fun id => (accepted.lookup id).isNone := by
  fun_induction assign accepted members with
  | case1 => rfl
  | case2 accepted id rest first found others fallbacks assigned ih =>
    obtain ⟨new, distinctRest⟩ := List.nodup_cons.1 distinct
    rw [assigned] at ih
    rw [List.countP_cons_of_neg (by simp [found]), ih distinctRest]
    refine List.countP_congr fun other member => ?_
    have differs : other ≠ id := by
      rintro rfl
      exact new member
    rw [lookup_filter_of_ne differs]
  | case3 accepted id rest absent others fallbacks assigned ih =>
    rw [assigned] at ih
    rw [List.countP_cons_of_pos (by simp [absent]), ← ih (List.nodup_cons.1 distinct).2]

theorem isNone_lookup_accepted {known members : List String} {entries : List Assessment}
    {id : String} (member : id ∈ members) :
    ((accepted known members entries).lookup id).isNone =
      !entries.any (Text.trim ·.patentId = id) := by
  rw [Bool.eq_iff_iff, Option.isNone_iff_eq_none, accepted, Keyed.lookup_ofList,
    List.lookup_eq_none_iff]
  simp only [List.mem_reverse, List.mem_map, List.mem_filter, Bool.not_eq_true', List.any_eq_false]
  constructor
  · intro unlisted entry inEntries same
    have same : Text.trim entry.patentId = id := of_decide_eq_true same
    have inBatch : members.contains (Text.trim entry.patentId) = true := by
      rw [same]
      exact List.contains_iff_mem.2 member
    have differs := unlisted _ ⟨entry, ⟨inEntries, inBatch⟩, rfl⟩
    simp [same] at differs
  · rintro unnamed _ ⟨entry, ⟨inEntries, -⟩, rfl⟩
    have differs : Text.trim entry.patentId ≠ id := fun same =>
      unnamed entry inEntries (decide_eq_true same)
    exact bne_iff_ne.2 differs.symm

theorem standIns_accepted (known : List String) {members : List String} {entries : List Assessment}
    (distinct : members.Nodup) :
    (assign (accepted known members entries) members).2 = missing members entries := by
  rw [standIns_assign distinct]
  refine List.countP_congr fun id member => ?_
  rw [isNone_lookup_accepted member]

/-! ## The replies about one batch -/

/-- The answers of a service from the call with a number on. -/
def repliesFrom (answer : Nat → Answer String) (start count : Nat) :
    List (Except Failure String) :=
  (List.range' start count).map fun n => (answer n).result

/-- One call was made, and got this reply. -/
structure OneCall (before after : Reasoner) (reply : Except Failure String) : Prop where
  calls : after.calls.length = before.calls.length + 1
  answer : after.answer = before.answer
  reply : (before.answer before.calls.length).result = reply

namespace OneCall

variable {before after : Reasoner} {question : String}

theorem of_asked {reply : Reply String} (asked : before.ask question = (reply, after))
    (kept : reply ≠ .cancelled) {result : Except Failure String}
    (replied : (before.answer before.calls.length).result = result) :
    OneCall before after result where
  calls := by
    rw [(Session.answered_of_ask asked kept).2, List.length_append, List.length_singleton]
  answer := by
    have same := before.answer_ask question
    rwa [asked] at same
  reply := replied

theorem of_failed {failure : Failure} (asked : before.ask question = (.failed failure, after)) :
    OneCall before after (.error failure) :=
  of_asked asked (Reply.failed_ne_cancelled failure) (Session.result_of_failed asked)

theorem of_answered {reply : String} (asked : before.ask question = (.answered reply, after)) :
    OneCall before after (.ok reply) :=
  of_asked asked (Reply.answered_ne_cancelled reply) (Session.result_of_answered asked)

theorem sleep {reply : Except Failure String} (call : OneCall before after reply) {duration : Nat}
    {reached : Bool} {later : Reasoner} (slept : after.sleep duration = (reached, later)) :
    OneCall before later reply where
  calls := Session.calls_of_sleep slept ▸ call.calls
  answer := (Session.Extends.ofSleep slept).answer.trans call.answer
  reply := call.reply

end OneCall

/-- These are the replies that the calls between two times got. -/
structure Received (before after : Reasoner) (replies : List (Except Failure String)) : Prop where
  count : after.calls.length = before.calls.length + replies.length
  got : replies = repliesFrom before.answer before.calls.length replies.length

namespace Received

variable {before between after : Reasoner} {reply : Except Failure String}
  {replies others : List (Except Failure String)}

theorem single (call : OneCall before after reply) : Received before after [reply] :=
  ⟨call.calls, congrArg (fun r => [r]) call.reply.symm⟩

theorem cons (call : OneCall before between reply) (received : Received between after replies) :
    Received before after (reply :: replies) where
  count := by
    rw [received.count, call.calls, List.length_cons]
    omega
  got := by
    have rest := received.got
    rw [call.answer, call.calls] at rest
    rw [repliesFrom, List.length_cons, List.range'_succ, List.map_cons, call.reply]
    exact congrArg (reply :: ·) rest

theorem unique (received : Received before after replies)
    (receivedOthers : Received before after others) : others = replies := by
  have length : others.length = replies.length :=
    Nat.add_left_cancel (receivedOthers.count.symm.trans received.count)
  rw [receivedOthers.got, length, ← received.got]

end Received

/-- What came of the attempts to assess a batch: the calls got these replies, which were counted, and
the last one can be read exactly if the batch is assessed. -/
structure Heard (members : List String) (before : Reasoner) (counts : Counts)
    (done : Except RunError (List Assessment) × Counts × Reasoner)
    (replies : List (Except Failure String)) : Prop where
  some : replies ≠ []
  calls : done.2.2.calls.length = before.calls.length + replies.length
  answer : done.2.2.answer = before.answer
  got : replies = repliesFrom before.answer before.calls.length replies.length
  foreignDropped : done.2.1.foreignDropped = counts.foreignDropped + foreignIn members replies
  fallbacks : done.2.1.fallbacks = counts.fallbacks + standInsFor members replies
  settled : (∃ assigned, done.1 = .ok assigned) ↔ (settling? replies).isSome = true

namespace Heard

variable {members : List String} {before between : Reasoner} {counts next : Counts}
  {done : Except RunError (List Assessment) × Counts × Reasoner}
  {reply : Except Failure String} {replies : List (Except Failure String)}

theorem received (heard : Heard members before counts done replies) :
    Received before done.2.2 replies :=
  ⟨heard.calls, heard.got⟩

theorem single (call : OneCall before done.2.2 reply)
    (foreignDropped : done.2.1.foreignDropped =
      counts.foreignDropped + ((entries? reply).map (foreign members)).getD 0)
    (fallbacks : done.2.1.fallbacks =
      counts.fallbacks + ((entries? reply).map (missing members)).getD 0)
    (settled : (∃ assigned, done.1 = .ok assigned) ↔ (entries? reply).isSome = true) :
    Heard members before counts done [reply] where
  some := List.cons_ne_nil reply []
  calls := (Received.single call).count
  answer := call.answer
  got := (Received.single call).got
  foreignDropped := by rw [foreignDropped, foreignIn_cons]; rfl
  fallbacks := fallbacks
  settled := settled

theorem cons (others : Heard members between next done replies)
    (call : OneCall before between reply)
    (foreignDropped : next.foreignDropped =
      counts.foreignDropped + ((entries? reply).map (foreign members)).getD 0)
    (fallbacks : next.fallbacks = counts.fallbacks) :
    Heard members before counts done (reply :: replies) where
  some := List.cons_ne_nil reply replies
  calls := (others.received.cons call).count
  answer := others.answer.trans call.answer
  got := (others.received.cons call).got
  foreignDropped := by
    rw [others.foreignDropped, foreignDropped, foreignIn_cons, Nat.add_assoc]
  fallbacks := by
    unfold standInsFor
    rw [settling?_cons others.some, ← fallbacks]
    exact others.fallbacks
  settled := by
    rw [settling?_cons others.some]
    exact others.settled

end Heard

theorem heard_of_attempt {base : Nat} {known members : List String} {prompt : String}
    {number : Nat} {feedback : Option String} {counts : Counts} {left : Nat} {reasoner : Reasoner}
    (distinct : members.Nodup)
    (kept : (attempt base known members prompt readReply? number feedback counts left reasoner).1 ≠
      .error .cancelled) :
    ∃ replies, Heard members reasoner counts
      (attempt base known members prompt readReply? number feedback counts left reasoner)
      replies := by
  fun_induction attempt base known members prompt readReply? number feedback counts left
    reasoner with
  | case1 => exact absurd rfl kept
  | case2 number feedback counts reasoner attempted failure heard asked left _ again later slept ih =>
    obtain ⟨replies, others⟩ := ih kept
    exact ⟨_, others.cons ((OneCall.of_failed asked).sleep slept) rfl rfl⟩
  | case3 => exact absurd rfl kept
  | case4 left number feedback counts reasoner attempted failure heard asked =>
    exact ⟨_, .single (.of_failed asked) rfl rfl (by simp [entries?])⟩
  | case5 number feedback counts reasoner attempted reply heard asked unreadable left ih =>
    obtain ⟨replies, others⟩ := ih kept
    refine ⟨_, others.cons (.of_answered asked) ?_ rfl⟩
    rw [entries?, unreadable]
    rfl
  | case6 number feedback counts reasoner attempted reply heard asked unreadable =>
    exact ⟨_, .single (.of_answered asked) (by simp [entries?, unreadable, attempted])
      (by simp [entries?, unreadable, attempted]) (by simp [entries?, unreadable])⟩
  | case7 number feedback counts reasoner attempted reply heard asked entries readable dropped
      counted accepted missing left incomplete ih =>
    obtain ⟨replies, others⟩ := ih kept
    refine ⟨_, others.cons (.of_answered asked) ?_ rfl⟩
    rw [entries?, readable]
    rfl
  | case8 left number feedback counts reasoner attempted reply heard asked entries readable dropped
      counted accepted missing assigned fallbacks assigning =>
    have standIns : fallbacks = Assess.missing members entries := by
      rw [← standIns_accepted known distinct]
      exact (congrArg Prod.snd assigning).symm
    refine ⟨_, .single (.of_answered asked) ?_ ?_ ?_⟩
    · rw [entries?, readable]
      rfl
    · rw [entries?, readable, standIns]
      rfl
    · simp [entries?, readable]

/-! ## The batches that were begun -/

/-- A batch that was begun, the calls made for it, and the replies that these got. -/
structure Hearing where
  patents : List PatentRecord
  calls : List (Call String)
  replies : List (Except Failure String)

namespace Hearing

def members (hearing : Hearing) : List String :=
  hearing.patents.map (·.id)

/-- The last reply can be read, and so the batch is assessed. -/
def IsSettled (hearing : Hearing) : Prop :=
  (settling? hearing.replies).isSome = true

def foreignDropped (hearing : Hearing) : Nat :=
  foreignIn hearing.members hearing.replies

def fallbacks (hearing : Hearing) : Nat :=
  standInsFor hearing.members hearing.replies

/-- Each call is about the batch and got one of the replies. -/
structure IsAbout (hearing : Hearing) (document : StrategyDocument) : Prop where
  answered : hearing.replies.length = hearing.calls.length
  prompts : ∀ call ∈ hearing.calls,
    IsPrompt hearing.members (Prompt.assessment document hearing.patents) call.question

end Hearing

/-- All batches were begun, and each is settled. -/
def Completes (batches : List (List PatentRecord)) (hearings : List Hearing) : Prop :=
  hearings.map (·.patents) = batches ∧ ∀ hearing ∈ hearings, hearing.IsSettled

/-- Batches were begun up to the first one that is not settled. -/
def BreaksOff (batches : List (List PatentRecord)) (hearings : List Hearing) : Prop :=
  ∃ earlier last, hearings = earlier ++ [last] ∧ hearings.map (·.patents) <+: batches ∧
    (∀ hearing ∈ earlier, hearing.IsSettled) ∧ ¬ last.IsSettled

/-- What came of the batches: the calls about those that were begun, and what the replies to them
count. -/
structure Hearings (document : StrategyDocument) (begun : Nat) (before : Reasoner) (counts : Counts)
    (done : Nat × Counts × Reasoner) (hearings : List Hearing) : Prop where
  about : ∀ hearing ∈ hearings, hearing.IsAbout document
  begun : done.1 = begun + hearings.length
  made : done.2.2.calls = before.calls ++ hearings.flatMap (·.calls)
  replies : hearings.flatMap (·.replies) =
    repliesFrom before.answer before.calls.length (hearings.flatMap (·.calls)).length
  foreignDropped : done.2.1.foreignDropped =
    counts.foreignDropped + (hearings.map (·.foreignDropped)).sum
  fallbacks : done.2.1.fallbacks = counts.fallbacks + (hearings.map (·.fallbacks)).sum

/-- A batch for which the attempts ended is heard. -/
theorem hearing_of_attempt {document : StrategyDocument} {settings : AssessmentSettings}
    {base : Nat} {counts counted : Counts} {batch : List PatentRecord} {reasoner after : Reasoner}
    {result : Except RunError (List Assessment)} (distinct : (batch.map (·.id)).Nodup)
    (done : attempt base document.elementIds (batch.map (·.id)) (Prompt.assessment document batch)
      readReply? 1 none counts (settings.maxAttempts - 1) reasoner = (result, counted, after))
    (kept : result ≠ .error .cancelled) :
    ∃ calls replies, (Hearing.mk batch calls replies).IsAbout document ∧
      after.calls = reasoner.calls ++ calls ∧
      Heard (batch.map (·.id)) reasoner counts (result, counted, after) replies := by
  have prompts := @asked_of_attempt document.elementIds (batch.map (·.id))
    (Prompt.assessment document batch) base readReply? 1 none .none counts
    (settings.maxAttempts - 1) reasoner
  rw [done] at prompts
  obtain ⟨calls, asked, -⟩ := prompts
  have replied := @heard_of_attempt base document.elementIds (batch.map (·.id))
    (Prompt.assessment document batch) 1 none counts (settings.maxAttempts - 1) reasoner distinct
  rw [done] at replied
  obtain ⟨replies, heard⟩ := replied kept
  have length : replies.length = calls.length := by
    have made := congrArg List.length asked.made
    rw [heard.calls, List.length_append] at made
    exact Nat.add_left_cancel made
  exact ⟨calls, replies, ⟨length, asked.prompts⟩, asked.made, heard⟩

namespace Hearings

variable {document : StrategyDocument} {begun : Nat} {before between : Reasoner}
  {counts counted : Counts} {done : Nat × Counts × Reasoner} {hearings : List Hearing}

theorem nil (document : StrategyDocument) (begun : Nat) (reasoner : Reasoner) (counts : Counts) :
    Hearings document begun reasoner counts (begun, counts, reasoner) [] where
  about := by simp
  begun := rfl
  made := (List.append_nil _).symm
  replies := rfl
  foreignDropped := rfl
  fallbacks := rfl

theorem cons {batch : List PatentRecord} {calls : List (Call String)}
    {replies : List (Except Failure String)} {result : Except RunError (List Assessment)}
    (others : Hearings document (begun + 1) between counted done hearings)
    (about : (Hearing.mk batch calls replies).IsAbout document)
    (made : between.calls = before.calls ++ calls)
    (heard : Heard (batch.map (·.id)) before counts (result, counted, between) replies) :
    Hearings document begun before counts done (⟨batch, calls, replies⟩ :: hearings) where
  about := List.forall_mem_cons.2 ⟨about, others.about⟩
  begun := by
    rw [others.begun, List.length_cons]
    omega
  made := by
    rw [others.made, made, List.append_assoc]
    rfl
  replies := by
    have rest := others.replies
    have answer : between.answer = before.answer := heard.answer
    have first : replies = repliesFrom before.answer before.calls.length calls.length :=
      about.answered ▸ heard.got
    rw [made, List.length_append, answer] at rest
    rw [List.flatMap_cons, List.flatMap_cons, List.length_append, rest]
    show replies ++ _ = _
    rw [first]
    unfold repliesFrom
    rw [← List.map_append, List.range'_append_1]
  foreignDropped := by
    have first : counted.foreignDropped =
        counts.foreignDropped + foreignIn (batch.map (·.id)) replies := heard.foreignDropped
    rw [others.foreignDropped, first, Nat.add_assoc]
    rfl
  fallbacks := by
    have first : counted.fallbacks =
        counts.fallbacks + standInsFor (batch.map (·.id)) replies := heard.fallbacks
    rw [others.fallbacks, first, Nat.add_assoc]
    rfl

end Hearings

theorem Completes.cons {batches : List (List PatentRecord)} {hearings : List Hearing}
    {first : Hearing} (completes : Completes batches hearings) (settled : first.IsSettled) :
    Completes (first.patents :: batches) (first :: hearings) :=
  ⟨congrArg (first.patents :: ·) completes.1, List.forall_mem_cons.2 ⟨settled, completes.2⟩⟩

theorem BreaksOff.cons {batches : List (List PatentRecord)} {hearings : List Hearing}
    {first : Hearing} (breaksOff : BreaksOff batches hearings) (settled : first.IsSettled) :
    BreaksOff (first.patents :: batches) (first :: hearings) := by
  obtain ⟨earlier, last, rfl, begun, allSettled, unsettled⟩ := breaksOff
  exact ⟨first :: earlier, last, rfl, (List.prefix_cons_inj _).2 begun,
    List.forall_mem_cons.2 ⟨settled, allSettled⟩, unsettled⟩

/-- All batches are heard, or those up to the first one that is not settled. -/
theorem hearings_of_assessBatches {document : StrategyDocument} {settings : AssessmentSettings}
    {base begun : Nat} {counts : Counts} {batches : List (List PatentRecord)}
    {reasoner : Reasoner} (distinct : ∀ batch ∈ batches, (batch.map (·.id)).Nodup)
    (kept : (assessBatches document settings base begun counts batches reasoner).1 ≠
      .error .cancelled) :
    ∃ hearings,
      Hearings document begun reasoner counts
        (assessBatches document settings base begun counts batches reasoner).2 hearings ∧
      match (assessBatches document settings base begun counts batches reasoner).1 with
      | .ok _ => Completes batches hearings
      | .error _ => BreaksOff batches hearings := by
  fun_induction assessBatches document settings base begun counts batches reasoner with
  | case1 => exact ⟨[], .nil .., rfl, by simp⟩
  | case2 begun counts batch rest reasoner error counted after ofBatch =>
    obtain ⟨calls, replies, about, made, heard⟩ :=
      hearing_of_attempt (distinct batch List.mem_cons_self) ofBatch kept
    refine ⟨_, (Hearings.nil ..).cons about made heard, ?_⟩
    refine ⟨[], _, rfl, ⟨rest, rfl⟩, by simp, fun settled => ?_⟩
    obtain ⟨assigned, ok⟩ := heard.settled.2 settled
    cases ok
  | case3 begun counts batch rest reasoner assigned counted between ofBatch error begun' counted'
      after ofRest ih =>
    obtain ⟨calls, replies, about, made, heard⟩ :=
      hearing_of_attempt (distinct batch List.mem_cons_self) ofBatch (by rintro ⟨⟩)
    rw [ofRest] at ih
    obtain ⟨hearings, others, breaksOff⟩ :=
      ih (fun other member => distinct other (List.mem_cons_of_mem _ member)) kept
    exact ⟨_, others.cons about made heard, breaksOff.cons (heard.settled.1 ⟨assigned, rfl⟩)⟩
  | case4 begun counts batch rest reasoner assigned counted between ofBatch others begun' counted'
      after ofRest ih =>
    obtain ⟨calls, replies, about, made, heard⟩ :=
      hearing_of_attempt (distinct batch List.mem_cons_self) ofBatch (by rintro ⟨⟩)
    rw [ofRest] at ih
    obtain ⟨hearings, heardOthers, completes⟩ :=
      ih (fun other member => distinct other (List.mem_cons_of_mem _ member)) (by rintro ⟨⟩)
    exact ⟨_, heardOthers.cons about made heard, completes.cons (heard.settled.1 ⟨assigned, rfl⟩)⟩

end Assess

/-! ## The outcome -/

/-- The counters of an outcome are those of the patents of the search and of the batches that were
begun. -/
structure AssessmentOutcome.Tallies (outcome : AssessmentOutcome) (settings : AssessmentSettings)
    (document : StrategyDocument) (patents : List PatentRecord) (answer : Nat → Answer String)
    (before after : List (Call String)) (hearings : List Assess.Hearing) : Prop where
  abstractsMissing : outcome.abstractsMissing = patents.countP (!·.hasAbstract)
  truncated : outcome.truncated = true ↔ settings.maxAssessed < patents.countP (·.hasAbstract)
  batches : outcome.batches = hearings.length
  about : ∀ hearing ∈ hearings, hearing.IsAbout document
  made : after = before ++ hearings.flatMap (·.calls)
  replies : hearings.flatMap (·.replies) =
    Assess.repliesFrom answer before.length (hearings.flatMap (·.calls)).length
  foreignDropped : outcome.foreignDropped = (hearings.map (·.foreignDropped)).sum
  fallbacks : outcome.fallbacks = (hearings.map (·.fallbacks)).sum

namespace Assess

section Outcome

variable {settings : AssessmentSettings} {base : Nat} {document : StrategyDocument}
  {patents : List PatentRecord} {reasoner : Reasoner}

theorem abstractsMissing_eq (patents : List PatentRecord) :
    patents.length - (patents.filter (·.hasAbstract)).length =
      patents.countP (!·.hasAbstract) := by
  have all := patents.length_eq_countP_add_countP (·.hasAbstract)
  rw [← List.countP_eq_length_filter]
  simp only [Bool.not_eq_true, Bool.decide_eq_false] at all
  omega

theorem nodup_of_mem_chunks {size : Nat} {patents batch : List PatentRecord}
    (distinct : (patents.map (·.id)).Nodup) (member : batch ∈ chunks size patents) :
    (batch.map (·.id)).Nodup := by
  have part : batch.Sublist patents := by
    rw [← flatten_chunks size patents]
    exact List.sublist_flatten_of_mem member
  exact distinct.sublist (part.map _)

/-- An outcome with the counts of the hearings tallies with them. -/
theorem Hearings.tallies {outcome : AssessmentOutcome} {done : Nat × Counts × Reasoner}
    {hearings : List Hearing} (heard : Hearings document 0 reasoner .zero done hearings)
    (abstractsMissing : outcome.abstractsMissing =
      patents.length - (patents.filter (·.hasAbstract)).length)
    (truncated : outcome.truncated =
      decide (settings.maxAssessed < (patents.filter (·.hasAbstract)).length))
    (batches : outcome.batches = done.1)
    (foreignDropped : outcome.foreignDropped = done.2.1.foreignDropped)
    (fallbacks : outcome.fallbacks = done.2.1.fallbacks) :
    outcome.Tallies settings document patents reasoner.answer reasoner.calls done.2.2.calls
      hearings where
  abstractsMissing := abstractsMissing.trans (abstractsMissing_eq patents)
  truncated := by
    rw [truncated, decide_eq_true_iff, List.countP_eq_length_filter]
  batches := by rw [batches, heard.begun, Nat.zero_add]
  about := heard.about
  made := heard.made
  replies := heard.replies
  foreignDropped := by
    rw [foreignDropped, heard.foreignDropped]
    exact Nat.zero_add _
  fallbacks := by
    rw [fallbacks, heard.fallbacks]
    exact Nat.zero_add _

/-- An assessment of distinct patents that is not given up tallies: with all batches if it has an
outcome, and otherwise with those up to the one that failed. -/
theorem tallies_of_run {done : StageRun AssessmentOutcome × Reasoner}
    (distinct : (patents.map (·.id)).Nodup)
    (ran : run settings base document patents reasoner = done)
    (kept : done.1.output ≠ .error .cancelled) :
    ∃ candidates hearings, AreFirst candidates settings.maxAssessed patents ∧
      match done.1.output with
      | .ok outcome =>
        Completes (chunks settings.batchSize candidates) hearings ∧
          outcome.Tallies settings document patents reasoner.answer reasoner.calls done.2.calls
            hearings
      | .error _ =>
        BreaksOff (chunks settings.batchSize candidates) hearings ∧
          ∃ counted, done.1.partialOutput = some counted ∧ counted.assessments = [] ∧
            counted.assessedNone = 0 ∧
            counted.Tallies settings document patents reasoner.answer reasoner.calls
              done.2.calls hearings := by
  let withAbstract := patents.filter (·.hasAbstract)
  let candidates := (PatentRecord.sortForAssessment withAbstract).take settings.maxAssessed
  have distinctAbstracts : (withAbstract.map (·.id)).Nodup :=
    distinct.sublist (List.filter_sublist.map _)
  have first : AreFirst candidates settings.maxAssessed patents :=
    ⟨_, perm_sortBy _ _, PatentRecord.pairwise_sortForAssessment distinctAbstracts, rfl⟩
  have once : (candidates.map (·.id)).Nodup :=
    (candidates_of_patents distinct settings.maxAssessed).1
  have heard := @hearings_of_assessBatches document settings base 0 .zero
    (chunks settings.batchSize candidates) reasoner fun batch member =>
      nodup_of_mem_chunks once member
  unfold run at ran
  dsimp only at ran
  split at ran
  case h_1 error batches counts after assessed =>
    subst ran
    rw [assessed] at heard
    obtain ⟨hearings, tallies, breaksOff⟩ :=
      heard fun same => kept (congrArg Except.error (Except.error.inj same))
    exact ⟨candidates, hearings, first, breaksOff, _, rfl, rfl, rfl,
      tallies.tallies rfl rfl rfl rfl rfl⟩
  case h_2 assessments batches counts after assessed =>
    subst ran
    rw [assessed] at heard
    obtain ⟨hearings, tallies, completes⟩ := heard (by rintro ⟨⟩)
    exact ⟨candidates, hearings, first, completes, tallies.tallies rfl rfl rfl rfl rfl⟩

end Outcome

end Assess

end PriorArt
