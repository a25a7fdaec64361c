import PriorArt.Proofs.Assessment.Tally

/-!
# How a batch is settled

1. `Assess.Mentions`, `Assess.settledFor`: whether a reply has an entry for each member of a batch,
   and which assessment it brings a member. These are the ones that are assigned
   (`Assess.assigned_accepted`).
2. `Assess.Outcome`: what a result of the service is worth to a batch, and what comes of the batch
   if it is the last one.
3. `Assess.Concludes`: the replies about a batch, up to the one that ends it
   (`Assess.concludes_of_attempt`).
-/

namespace PriorArt

namespace Metrics

instance : Add Metrics where
  add m n := ⟨m.attempts + n.attempts, m.contentRetries + n.contentRetries,
    m.transportRetries + n.transportRetries⟩

instance : Zero Metrics := ⟨.zero⟩

theorem add_def (m n : Metrics) :
    m + n = ⟨m.attempts + n.attempts, m.contentRetries + n.contentRetries,
      m.transportRetries + n.transportRetries⟩ := rfl

theorem add_assoc (m n o : Metrics) : m + n + o = m + (n + o) := by
  simp only [add_def, Nat.add_assoc]

theorem zero_add (m : Metrics) : .zero + m = m := by
  simp only [add_def, zero, Nat.zero_add]

end Metrics

namespace Assess

variable {known members : List String} {entries : List Assessment}

/-! ## The entries of a reply -/

/-- There is an entry for each member of the batch. -/
def Mentions (members : List String) (entries : List Assessment) : Prop :=
  ∀ id ∈ members, ∃ entry ∈ entries, Text.trim entry.patentId = id

instance (members : List String) (entries : List Assessment) :
    Decidable (Mentions members entries) :=
  inferInstanceAs (Decidable (∀ id ∈ members, ∃ entry ∈ entries, Text.trim entry.patentId = id))

/-- What a reply brings a member of the batch: the last entry for it, sanitized, or a stand-in if
there is none. -/
def settledFor (known : List String) (entries : List Assessment) (id : String) : Assessment :=
  match (entries.filter (Text.trim ·.patentId = id)).getLast? with
  | some entry => entry.sanitize known
  | none => .fallback id

theorem isEmpty_missing_iff :
    (members.filter fun id => ((accepted known members entries).lookup id).isNone).isEmpty = true ↔
      Mentions members entries := by
  rw [List.isEmpty_iff, List.filter_eq_nil_iff]
  refine forall₂_congr fun id member => ?_
  rw [isNone_lookup_accepted member]
  simp

/-- Of the entries for a member the last one is accepted. -/
theorem lookup_accepted {id : String} (member : id ∈ members) :
    (accepted known members entries).lookup id =
      (entries.filter (Text.trim ·.patentId = id)).getLast?.map (·.sanitize known) := by
  rw [accepted, Keyed.lookup_ofList]
  induction entries using List.reverseRecOn with
  | nil => rfl
  | append_singleton entries entry ih =>
    rw [List.filter_append, List.filter_append, List.map_append, List.reverse_append]
    by_cases names : Text.trim entry.patentId = id
    · simp [names, member]
    · by_cases inBatch : Text.trim entry.patentId ∈ members
      · simpa [names, inBatch, Keyed.lookup_cons, Ne.symm names] using ih
      · simpa [names, inBatch] using ih

theorem assigned_eq_map {accepted : List (String × Assessment)} (distinct : members.Nodup) :
    (assign accepted members).1 =
      members.map fun id => (accepted.lookup id).getD (.fallback id) := by
  fun_induction assign accepted members with
  | case1 => rfl
  | case2 accepted id rest first found others fallbacks assigned ih =>
    obtain ⟨new, distinctRest⟩ := List.nodup_cons.1 distinct
    rw [assigned] at ih
    have ofRest := ih distinctRest
    dsimp only at ofRest ⊢
    rw [List.map_cons, found, ofRest]
    refine congrArg (first :: ·) (List.map_congr_left fun other member => ?_)
    have differs : other ≠ id := by
      rintro rfl
      exact new member
    rw [lookup_filter_of_ne differs]
  | case3 accepted id rest absent others fallbacks assigned ih =>
    rw [assigned] at ih
    rw [List.map_cons, absent, ← ih (List.nodup_cons.1 distinct).2]
    rfl

theorem assigned_accepted (distinct : members.Nodup) :
    (assign (accepted known members entries) members).1 =
      members.map (settledFor known entries) := by
  rw [assigned_eq_map distinct]
  refine List.map_congr_left fun id member => ?_
  rw [lookup_accepted member, settledFor]
  cases (entries.filter (Text.trim ·.patentId = id)).getLast? <;> rfl

/-! ## Outcomes -/

/-- What a result is worth to a batch. -/
inductive Outcome where
  | transient (failure : Failure)
  | fatal (failure : Failure)
  | unreadable
  | incomplete (entries : List Assessment)
  | complete (entries : List Assessment)

namespace Outcome

/-- The outcome of a result: a failure that may pass or not, or a reply that cannot be read, that
misses a member of the batch or mentions them all. -/
def ofResult (members : List String) : Except Failure String → Outcome
  | .error failure => if failure.MayPass then .transient failure else .fatal failure
  | .ok reply =>
    match readReply? reply with
    | none => .unreadable
    | some entries =>
      if Mentions members entries then .complete entries else .incomplete entries

def isFinal : Outcome → Bool
  | .fatal _ | .complete _ => true
  | .transient _ | .unreadable | .incomplete _ => false

def isUnusable : Outcome → Bool
  | .unreadable | .incomplete _ => true
  | _ => false

def isTransient : Outcome → Bool
  | .transient _ => true
  | _ => false

/-- An attempt that others follow is repeated for one of two reasons. -/
theorem isTransient_of_going {outcome : Outcome} (going : outcome.isFinal = false) :
    outcome.isTransient = !outcome.isUnusable := by
  cases outcome with
  | transient | unreadable | incomplete => rfl
  | fatal | complete => cases going

/-- What an attempt that others follow counts. -/
def retry (outcome : Outcome) : Metrics :=
  ⟨1, if outcome.isUnusable then 1 else 0, if outcome.isTransient then 1 else 0⟩

/-- What comes of a batch for which no attempt is made after this one. -/
def verdict (known members : List String) : Outcome → Except RunError (List Assessment)
  | .transient failure | .fatal failure => .error (.provider failure)
  | .unreadable => .error (.content .assessment .invalidJson)
  | .incomplete entries | .complete entries => .ok (members.map (settledFor known entries))

/-- A batch is given up for no outcome. -/
theorem verdict_ne_cancelled (outcome : Outcome) :
    outcome.verdict known members ≠ .error .cancelled := by
  cases outcome <;> rintro ⟨⟩

section Result

variable {reply : String} {failure : Failure}

theorem ofResult_transient (passes : failure.MayPass) :
    ofResult members (.error failure) = .transient failure :=
  if_pos passes

theorem ofResult_fatal (stays : ¬ failure.MayPass) :
    ofResult members (.error failure) = .fatal failure :=
  if_neg stays

theorem ofResult_unreadable (unreadable : readReply? reply = none) :
    ofResult members (.ok reply) = .unreadable := by
  rw [ofResult, unreadable]

theorem ofResult_complete (readable : readReply? reply = some entries)
    (complete : Mentions members entries) :
    ofResult members (.ok reply) = .complete entries := by
  rw [ofResult, readable]
  exact if_pos complete

theorem ofResult_incomplete (readable : readReply? reply = some entries)
    (incomplete : ¬ Mentions members entries) :
    ofResult members (.ok reply) = .incomplete entries := by
  rw [ofResult, readable]
  exact if_neg incomplete

end Result

end Outcome

/-! ## The replies about one batch -/

/-- The replies end with the first one whose outcome is final, or with that of the last attempt. -/
structure IsConcluded (members : List String) (most : Nat)
    (replies : List (Except Failure String)) : Prop where
  some : replies ≠ []
  within : replies.length ≤ most
  going : ∀ reply ∈ replies.dropLast, (Outcome.ofResult members reply).isFinal = false
  ends : ∀ reply ∈ replies.getLast?,
    (Outcome.ofResult members reply).isFinal = true ∨ replies.length = most

/-- The number of calls for which these were the replies, and why there was more than one. -/
def metricsOf (members : List String) (replies : List (Except Failure String)) : Metrics where
  attempts := replies.length
  contentRetries :=
    replies.dropLast.countP fun reply => (Outcome.ofResult members reply).isUnusable
  transportRetries :=
    replies.dropLast.countP fun reply => (Outcome.ofResult members reply).isTransient

/-- Each call but the last is repeated for one reason. -/
theorem balanced_metricsOf {most : Nat} {replies : List (Except Failure String)}
    (concluded : IsConcluded members most replies) :
    (metricsOf members replies).attempts =
      1 + (metricsOf members replies).contentRetries +
        (metricsOf members replies).transportRetries := by
  have others : replies.dropLast.length =
      (replies.dropLast.countP fun reply => (Outcome.ofResult members reply).isUnusable) +
        replies.dropLast.countP fun reply => (Outcome.ofResult members reply).isTransient := by
    rw [List.length_eq_countP_add_countP fun reply => (Outcome.ofResult members reply).isUnusable]
    congr 1
    refine List.countP_congr fun reply member => ?_
    rw [Outcome.isTransient_of_going (concluded.going reply member)]
    simp
  have some := List.length_pos_iff.2 concluded.some
  rw [List.length_dropLast] at others
  simp only [metricsOf]
  omega

def verdict? (known members : List String) (replies : List (Except Failure String)) :
    Option (Except RunError (List Assessment)) :=
  replies.getLast?.map fun reply => (Outcome.ofResult members reply).verdict known members

theorem ne_cancelled_of_verdict {replies : List (Except Failure String)}
    {result : Except RunError (List Assessment)}
    (verdict : verdict? known members replies = some result) : result ≠ .error .cancelled := by
  obtain ⟨reply, -, rfl⟩ := Option.map_eq_some_iff.1 verdict
  exact Outcome.verdict_ne_cancelled _

/-- What came of the attempts to assess a batch: the last reply decides. -/
structure Concludes (known members : List String) (most : Nat) (before : Reasoner)
    (counts : Counts) (done : Except RunError (List Assessment) × Counts × Reasoner)
    (replies : List (Except Failure String)) : Prop where
  received : Received before done.2.2 replies
  calm : done.2.2.IsCalm
  concluded : IsConcluded members most replies
  verdict : verdict? known members replies = some done.1
  metrics : done.2.1.metrics = counts.metrics + metricsOf members replies

section Attempts

variable {left : Nat} {before between : Reasoner} {counts counted : Counts}
  {done : Except RunError (List Assessment) × Counts × Reasoner} {reply : Except Failure String}
  {replies : List (Except Failure String)} {outcome : Outcome}

theorem metricsOf_cons (some : replies ≠ [])
    (isOutcome : Outcome.ofResult members reply = outcome) :
    metricsOf members (reply :: replies) = outcome.retry + metricsOf members replies := by
  rw [metricsOf, List.dropLast_cons_of_ne_nil some, List.countP_cons, List.countP_cons, isOutcome,
    List.length_cons, Nat.add_comm, Nat.add_comm (List.countP ..), Nat.add_comm (List.countP ..)]
  rfl

theorem Concludes.single (call : OneCall before done.2.2 reply) (calm : done.2.2.IsCalm)
    (isOutcome : Outcome.ofResult members reply = outcome)
    (ends : outcome.isFinal = true ∨ left = 0) (verdict : done.1 = outcome.verdict known members)
    (metrics : done.2.1.metrics = counts.metrics.attempted) :
    Concludes known members (left + 1) before counts done [reply] where
  received := .single call
  calm
  concluded :=
    { some := List.cons_ne_nil reply []
      within := Nat.le_add_left ..
      going := by simp
      ends := by
        intro other isLast
        obtain rfl : reply = other := by simpa using isLast
        rw [isOutcome]
        exact ends.imp_right (congrArg (· + 1) ·.symm) }
  verdict := by
    rw [verdict, ← isOutcome]
    rfl
  metrics

theorem Concludes.next
    (others : Concludes known members (left + 1) between counted done replies)
    (call : OneCall before between reply) (isOutcome : Outcome.ofResult members reply = outcome)
    (going : outcome.isFinal = false) (metrics : counted.metrics = counts.metrics + outcome.retry) :
    Concludes known members (left + 1 + 1) before counts done (reply :: replies) := by
  have some := others.concluded.some
  exact
    { received := others.received.cons call
      calm := others.calm
      concluded :=
        { some := List.cons_ne_nil reply replies
          within := Nat.succ_le_succ others.concluded.within
          going := by
            rw [List.dropLast_cons_of_ne_nil some]
            exact List.forall_mem_cons.2 ⟨isOutcome ▸ going, others.concluded.going⟩
          ends := by
            rw [List.getLast?_cons_of_ne_nil some]
            intro other isLast
            exact (others.concluded.ends other isLast).imp_right (congrArg (· + 1)) }
      verdict := by
        rw [verdict?, List.getLast?_cons_of_ne_nil some]
        exact others.verdict
      metrics := by rw [others.metrics, metrics, metricsOf_cons some isOutcome, Metrics.add_assoc] }

end Attempts

theorem concludes_of_attempt {base : Nat} {prompt : String} {number : Nat}
    {feedback : Option String} {counts : Counts} {left : Nat} {reasoner : Reasoner}
    (distinct : members.Nodup) (calm : reasoner.IsCalm) :
    ∃ replies, Concludes known members (left + 1) reasoner counts
      (attempt base known members prompt readReply? number feedback counts left reasoner)
      replies := by
  fun_induction attempt base known members prompt readReply? number feedback counts left
    reasoner with
  | case1 left number feedback counts reasoner attempted heard asked =>
    exact absurd rfl (calm.ne_cancelled asked)
  | case2 number feedback counts reasoner attempted failure heard asked left passes again later
      slept ih =>
    obtain ⟨replies, others⟩ := ih ((calm.of_ask asked).of_sleep slept)
    exact ⟨_, others.next ((OneCall.of_failed asked).sleep slept)
      (Outcome.ofResult_transient (failure.isTransient_iff.1 passes)) rfl rfl⟩
  | case3 number feedback counts reasoner attempted failure heard asked left passes again later
      slept =>
    exact absurd ((calm.of_ask asked).reached slept) Bool.false_ne_true
  | case4 left number feedback counts reasoner attempted failure heard asked final =>
    have heardCalm := calm.of_ask asked
    -- a failure that may pass ends the attempts only if none is left
    by_cases passes : failure.MayPass
    · cases left with
      | zero =>
        exact ⟨_, .single (.of_failed asked) heardCalm (Outcome.ofResult_transient passes)
          (.inr rfl) rfl rfl⟩
      | succ left => exact absurd (failure.isTransient_iff.2 passes) (final left rfl)
    · exact ⟨_, .single (.of_failed asked) heardCalm (Outcome.ofResult_fatal passes) (.inl rfl) rfl
        rfl⟩
  | case5 number feedback counts reasoner attempted reply heard asked unreadable left ih =>
    obtain ⟨replies, others⟩ := ih (calm.of_ask asked)
    exact ⟨_, others.next (.of_answered asked) (Outcome.ofResult_unreadable unreadable) rfl rfl⟩
  | case6 number feedback counts reasoner attempted reply heard asked unreadable =>
    exact ⟨_, .single (.of_answered asked) (calm.of_ask asked)
      (Outcome.ofResult_unreadable unreadable) (.inr rfl) rfl rfl⟩
  | case7 number feedback counts reasoner attempted reply heard asked entries readable dropped
      counted accepted missing left some ih =>
    obtain ⟨replies, others⟩ := ih (calm.of_ask asked)
    have incomplete : ¬ Mentions members entries :=
      mt isEmpty_missing_iff.2 (Bool.eq_false_iff.1 some)
    exact ⟨_, others.next (.of_answered asked) (Outcome.ofResult_incomplete readable incomplete)
      rfl rfl⟩
  | case8 left number feedback counts reasoner attempted reply heard asked entries readable dropped
      counted accepted missing assigned fallbacks assigning final =>
    have heardCalm := calm.of_ask asked
    have settled : assigned = members.map (settledFor known entries) := by
      rw [← assigned_accepted distinct]
      exact (congrArg Prod.fst assigning).symm
    -- a member may be missing only if no attempt is left
    by_cases complete : Mentions members entries
    · exact ⟨_, .single (.of_answered asked) heardCalm
        (Outcome.ofResult_complete readable complete) (.inl rfl) (congrArg Except.ok settled) rfl⟩
    · cases left with
      | zero =>
        exact ⟨_, .single (.of_answered asked) heardCalm
          (Outcome.ofResult_incomplete readable complete) (.inr rfl) (congrArg Except.ok settled)
          rfl⟩
      | succ left =>
        exact absurd (Bool.eq_false_iff.2 (mt isEmpty_missing_iff.1 complete)) (final left rfl)

end Assess

end PriorArt
