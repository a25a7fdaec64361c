import PriorArt.Proofs.Faults.Session
import PriorArt.Proofs.Search.Verdict

/-!
# A search with inserted faults

A search whose queries are sent once more after every fault comes to the same result, as long as
the attempts for each query suffice. Only its numbers of calls differ.

1. `Search.agree_attempt`: one query. A fault that may be inserted is no timeout, and so a query may
   still be repeated after its first one.
2. `Search.agree_sendAll`: the queries of the plan, with their attempts as in the log.
3. `Search.agree_run`: the search.
-/

namespace PriorArt

open Session

def Faults.Temporary (faults : Faults) : Prop :=
  ∀ n, ∀ fault ∈ faults n, fault.failure.IsTemporary

def SearchOutcome.uncounted (outcome : SearchOutcome) : SearchOutcome :=
  { outcome with
    apiCalls := 0
    retries := 0 }

namespace Search

def Progress.uncounted (progress : Progress) : Progress :=
  { progress with
    apiCalls := 0
    retries := 0 }

variable {faults : Faults} {settings : SearchSettings} {first second : Service}

/-! ## One query -/

section Query

variable {base : Nat} {query : TextQuery}

theorem isSome_retryDelay? (base number number' : Nat) (timedOut : Bool) (failure : Failure) :
    (retryDelay? base number timedOut failure).isSome =
      (retryDelay? base number' timedOut failure).isSome := by
  unfold retryDelay?
  cases failure.failureClass with
  | rateLimited => dsimp only; split <;> rfl
  | timeout => cases timedOut <;> rfl
  | server => rfl
  | client => rfl
  | other => rfl

theorem retryDelay?_of_isTemporary {failure : Failure} (temporary : failure.IsTemporary)
    (base number : Nat) (timedOut : Bool) :
    failure.failureClass ≠ .timeout ∧
      ∃ delay, retryDelay? base number timedOut failure = some delay := by
  obtain ⟨code, retryAfter, body, rfl, kind⟩ := temporary
  have kinds : Failure.classOfStatus code = .rateLimited ∨
      Failure.classOfStatus code = .server := by
    unfold Failure.classOfStatus
    split
    case isTrue => exact .inl rfl
    case isFalse other => exact .inr (if_pos (kind.resolve_left other))
  unfold retryDelay? Failure.failureClass
  dsimp only
  rcases kinds with limited | server
  · rw [limited]
    refine ⟨by decide, ?_⟩
    dsimp only
    split <;> exact ⟨_, rfl⟩
  · rw [server]
    exact ⟨by decide, _, rfl⟩

/-- After a temporary failure a query is sent again. -/
theorem attempt_of_fault {fault : Fault} (temporary : fault.failure.IsTemporary)
    {number : Nat} {timedOut : Bool} {left : Nat} {service heard : Service}
    (asked : service.ask query = (.failed fault.failure, heard)) (calm : heard.IsCalm) :
    ∃ now, attempt base query number timedOut (left + 1) service =
      attempt base query (number + 1) timedOut left (heard.atTime now) := by
  obtain ⟨noTimeout, delay, delayed⟩ := retryDelay?_of_isTemporary temporary base number timedOut
  obtain ⟨now, slept⟩ := calm.sleep delay
  refine ⟨now, ?_⟩
  rw [attempt, asked]
  simp only [delayed, slept, noTimeout, decide_false, Bool.or_false]

theorem attempt_past (temporary : faults.Temporary) {heard : Service}
    (inStep : InStep faults first second) {reply : Reply SearchResponse}
    (asked : first.ask query = (reply, heard)) {left stop : Nat}
    (enough : faults.Suffice (left + 1) first.calls.length stop)
    (further : heard.calls.length ≤ stop) (number : Nat) (timedOut : Bool) :
    ∃ number' left' before last, left' ≤ left ∧
      faults.Suffice left' heard.calls.length stop ∧
      attempt base query number timedOut left second =
        attempt base query number' timedOut left' before ∧
      before.ask query = (reply, last) ∧ InStep faults heard last := by
  obtain ⟨number', left', before, last, -, reached⟩ := inStep.ask
    (fun number => attempt base query number timedOut) (fun _ => True)
    (fun fault member number left s t _ failed calm => by
      obtain ⟨now, again⟩ := attempt_of_fault (temporary _ fault member) failed calm
      exact ⟨number + 1, now, trivial, again⟩)
    asked enough further number trivial
  exact ⟨number', left', before, last, reached⟩

theorem agree_attempt (temporary : faults.Temporary) (number number' : Nat) (timedOut : Bool)
    {left left' : Nat} (fewer : left' ≤ left) {first second : Service}
    (inStep : InStep faults first second)
    (enough : faults.Suffice (left' + 1) first.calls.length
      (attempt base query number timedOut left first).2.calls.length) :
    Agree faults (Option.map QueryResult.result) (attempt base query number timedOut left first)
      (attempt base query number' timedOut left' second) := by
  generalize delayed : attempt base query number' timedOut left' second = two
  fun_induction attempt base query number timedOut left first
    generalizing number' left' second two with
  | case1 _ _ _ _ _ asked => exact absurd rfl (inStep.calm.ne_cancelled asked)
  | case2 left number timedOut first response heard asked =>
    obtain ⟨number', left', before, last, fewer', -, past, asked', further⟩ :=
      attempt_past temporary inStep asked enough (Nat.le_refl _) number' timedOut
    rw [past, attempt, asked'] at delayed
    subst delayed
    exact ⟨rfl, further⟩
  | case3 number timedOut first failure heard asked left delay again slept waited ih =>
    have next := extends_attempt base query (number + 1)
      (timedOut || failure.failureClass = .timeout) left slept
    obtain ⟨number', left', before, last, fewer', enough, past, asked', further⟩ :=
      attempt_past temporary inStep asked enough (calls_of_sleep waited ▸ next.calls.length_le)
        number' timedOut
    rw [← calls_of_sleep waited] at enough
    -- the faults were no timeouts, and so they leave the retry after a timeout as it is
    obtain ⟨delay', again'⟩ : ∃ delay, retryDelay? base number' timedOut failure = some delay := by
      rw [← Option.isSome_iff_exists, isSome_retryDelay? base number' number, again]
      rfl
    obtain ⟨-, last', waited', further⟩ := further.sleep waited delay'
    obtain ⟨left', rfl⟩ := enough.again (further.calm.length_lt (extends_ask_attempt ..))
    rw [past, attempt, asked'] at delayed
    simp only [again', waited'] at delayed
    exact ih (number' + 1) (by omega) further enough two delayed
  | case4 _ _ _ _ _ asked _ _ _ _ given =>
    exact absurd ((inStep.calm.of_ask asked).reached given) Bool.false_ne_true
  | case5 left number timedOut first failure heard asked final =>
    obtain ⟨number', left', before, last, fewer', -, past, asked', further⟩ :=
      attempt_past temporary inStep asked enough (Nat.le_refl _) number' timedOut
    rw [past, attempt, asked'] at delayed
    dsimp only at delayed
    split at delayed
    case h_1 delay' again' =>
      obtain ⟨left, rfl⟩ : ∃ left', left = left' + 1 := Nat.exists_eq_add_of_le' (by omega)
      obtain ⟨delay, again⟩ : ∃ delay, retryDelay? base number timedOut failure = some delay := by
        rw [← Option.isSome_iff_exists, isSome_retryDelay? base number number', again']
        rfl
      exact absurd again (final left delay rfl)
    case h_2 =>
      subst delayed
      exact ⟨rfl, further⟩

end Query

/-! ## The queries of the plan -/

theorem agree_send (temporary : faults.Temporary) (query : TextQuery)
    (inStep : InStep faults first second)
    (enough : faults.Suffice (max settings.maxAttempts 1) first.calls.length
      (send settings query first).2.calls.length) :
    Agree faults (Option.map QueryResult.result) (send settings query first)
      (send settings query second) := by
  have attempts : max settings.maxAttempts 1 = settings.maxAttempts - 1 + 1 := by omega
  rw [attempts] at enough
  exact agree_attempt temporary 1 1 false (Nat.le_refl _) inStep enough

/-- Numbers of attempts do not matter to what becomes of the progress. -/
theorem note_uncounted (progress : Progress) (item : PlannedQuery) (result : QueryResult) :
    (progress.note settings item result).map Progress.uncounted =
      (progress.uncounted.note settings item ⟨result.result, 0⟩).map Progress.uncounted := by
  obtain ⟨failure | response, attempts⟩ := result
  · show ((progress.counted attempts).fail settings.maxBadRequests failure).map Progress.uncounted =
      ((progress.uncounted.counted 0).fail settings.maxBadRequests failure).map Progress.uncounted
    unfold Progress.fail
    dsimp only
    split
    · rfl
    · split
      · have same : (progress.uncounted.counted 0).badRequests =
          (progress.counted attempts).badRequests := rfl
        rw [same]
        split
        · rfl
        · rfl
      · rfl
  · rfl

/-- What becomes of two searches that are alike with the same result of a query. -/
theorem note_alike (settings : SearchSettings) {progress progress' : Progress}
    (alike : progress'.uncounted = progress.uncounted) (item : PlannedQuery)
    {result result' : QueryResult} (same : result'.result = result.result) :
    (progress'.note settings item result').map Progress.uncounted =
      (progress.note settings item result).map Progress.uncounted := by
  rw [note_uncounted progress', note_uncounted progress, alike, same]

theorem sendAll_of_sent {gate gate' : Gate} {progress : Progress} {item : PlannedQuery}
    {service after : Service} {now : Nat} {result : QueryResult}
    (isOpen : progress.isClosedTo item = false)
    (permit : gate.acquire service.clock = (true, gate', (service.atTime now).clock))
    (sent : send settings item.query (service.atTime now) = (some result, after))
    (rest : List PlannedQuery) :
    sendAll settings gate progress (item :: rest) service =
      afterSent settings progress item (sendAll settings gate' · rest ·) (some result) after := by
  have same : ({ service with clock := (service.atTime now).clock } : Service) =
      service.atTime now := rfl
  rw [sendAll, isOpen, if_neg Bool.false_ne_true, permit]
  dsimp only
  rw [same, sent]
  obtain ⟨failure | response, attempts⟩ := result
  · rfl
  · rfl

theorem agree_afterSent {progress progress' : Progress}
    (alike : progress'.uncounted = progress.uncounted) (item : PlannedQuery)
    {result result' : QueryResult} (same : result'.result = result.result)
    (inStep : InStep faults first second)
    {rest rest' : Progress → Service → Except RunError Progress × Service}
    (others : ∀ next next', progress.note settings item result = .ok next →
      next'.uncounted = next.uncounted →
        Agree faults (Except.map Progress.uncounted) (rest next first) (rest' next' second)) :
    Agree faults (Except.map Progress.uncounted)
      (afterSent settings progress item rest (some result) first)
      (afterSent settings progress' item rest' (some result') second) := by
  have noted := note_alike settings alike item same
  unfold afterSent
  dsimp only
  generalize progress.note settings item result = next at noted others ⊢
  generalize progress'.note settings item result' = next' at noted ⊢
  obtain error | next := next
  · obtain error' | next' := next'
    · cases noted
      exact ⟨rfl, inStep⟩
    · cases noted
  · obtain error' | next' := next'
    · cases noted
    · exact others next next' rfl (Except.ok.inj noted)

theorem length_lt_sendAll (settings : SearchSettings) {progress : Progress} {item : PlannedQuery}
    {service : Service} (isOpen : progress.isClosedTo item = false) (calm : service.IsCalm)
    (gate : Gate) (rest : List PlannedQuery) :
    service.calls.length <
      (sendAll settings gate progress (item :: rest) service).2.calls.length := by
  obtain ⟨gate', now, permit⟩ := calm.acquire gate
  obtain ⟨result, after, sent, -⟩ := attempt_of_isCalm settings.backoffBase item.query 1 false
    (settings.maxAttempts - 1) (calm.atTime now)
  have first : service.calls.length < after.calls.length := by
    have further := (calm.atTime now).length_lt (extends_ask_attempt settings.backoffBase item.query
      1 false (settings.maxAttempts - 1) (service.atTime now))
    rw [sent] at further
    exact further
  rw [sendAll_of_sent isOpen permit sent]
  exact Nat.lt_of_lt_of_le first
    (extends_afterSent (fun progress service => extends_sendAll ..) _ _).calls.length_le

theorem agree_sendAll (temporary : faults.Temporary) (plan : List PlannedQuery) (gate gate' : Gate)
    {progress progress' : Progress} (alike : progress'.uncounted = progress.uncounted)
    {first second : Service} (inStep : InStep faults first second) {log : Log}
    (sent : Sent settings gate first log (sendAll settings gate progress plan first).2)
    (begins : log.map (·.1) <+: plan)
    (within : faults.Within (max settings.maxAttempts 1) first.calls.length
      (log.map (·.2.attempts))) :
    Agree faults (Except.map Progress.uncounted) (sendAll settings gate progress plan first)
      (sendAll settings gate' progress' plan second) := by
  induction plan generalizing gate gate' progress progress' first second log with
  | nil => exact ⟨congrArg Except.ok alike, inStep⟩
  | cons item rest ih =>
    have closed : progress'.isClosedTo item = progress.isClosedTo item :=
      congrArg (·.isClosedTo item) alike
    cases isOpen : progress.isClosedTo item with
    | true =>
      rw [sendAll, sendAll, closed, isOpen]
      exact ⟨congrArg Except.ok alike, inStep⟩
    | false =>
      have more := length_lt_sendAll settings isOpen inStep.calm gate rest
      generalize ended : (sendAll settings gate progress (item :: rest) first).2 = last at sent more
      cases sent with
      | nil => exact absurd more (Nat.lt_irrefl _)
      | @cons _ gate₁ _ after _ clock item' result log permit attempted others =>
        obtain ⟨rfl, others_begin⟩ := List.cons_prefix_cons.1 begins
        obtain ⟨few, within⟩ := within
        obtain ⟨_, now, acquired⟩ := inStep.calm.acquire gate
        obtain ⟨gate₂, now', acquired'⟩ := inStep.delayed.acquire gate'
        rw [acquired, Prod.mk.injEq, Prod.mk.injEq] at permit
        obtain ⟨-, rfl, rfl⟩ := permit
        change send settings item'.query (first.atTime now) = _ at attempted
        have begun := inStep.atTime now now'
        have length := (length_calls_attempt attempted).1
        have enough : faults.Suffice (max settings.maxAttempts 1) first.calls.length
            (send settings item'.query (first.atTime now)).2.calls.length := by
          rw [attempted]
          exact ⟨_, Nat.succ.inj length, few⟩
        have agree := agree_send temporary item'.query begun enough
        rw [attempted] at agree
        obtain ⟨same, further⟩ := agree
        obtain ⟨result', attempted', same⟩ := Option.map_eq_some_iff.1 same
        rw [sendAll_of_sent isOpen acquired attempted] at ended ⊢
        rw [sendAll_of_sent (closed.trans isOpen) acquired' (Prod.ext attempted' rfl)]
        refine agree_afterSent alike item' same further fun next next' noted alike => ?_
        rw [afterSent, noted] at ended
        subst ended
        exact ih _ _ alike further others others_begin (Nat.succ.inj length ▸ within)

theorem conclude_uncounted (plan : List PlannedQuery) (progress : Progress) :
    (conclude plan progress).map SearchOutcome.uncounted =
      (conclude plan progress.uncounted).map SearchOutcome.uncounted := by
  have same : progress.uncounted.failed = progress.failed := rfl
  unfold conclude
  rw [same]
  split
  · rfl
  · rfl

theorem bind_conclude_alike (plan : List PlannedQuery) {one two : Except RunError Progress}
    (same : two.map Progress.uncounted = one.map Progress.uncounted) :
    (two.bind (conclude plan)).map SearchOutcome.uncounted =
      (one.bind (conclude plan)).map SearchOutcome.uncounted := by
  obtain error | progress := one
  · obtain error' | progress' := two
    · cases same
      rfl
    · cases same
  · obtain error' | progress' := two
    · cases same
    · show (conclude plan progress').map _ = (conclude plan progress).map _
      rw [conclude_uncounted plan progress', conclude_uncounted plan progress, Except.ok.inj same]

/-- The queries that were sent in a search. -/
structure Asked (settings : SearchSettings) (strategies : List SearchStrategy) (service : Service)
    (log : Log) : Prop where
  sent : Sent settings (Gate.opening settings.requestsPerMinute service.clock.now) service log
    (run settings strategies service).2
  begins : log.map (·.1) <+: Plan.ofStrategies strategies

theorem Sent.attempts_eq_one {gate : Gate} {service last : Service} {log : Log}
    (sent : Sent settings gate service log last) (calm : service.IsCalm)
    (answered : ∀ n, ∃ response, (service.answer n).result = .ok response) :
    ∀ entry ∈ log, entry.2.attempts = 1 := by
  induction sent with
  | nil => simp
  | @cons gate _ service after _ clock item result log permit attempted others ih =>
    obtain ⟨_, now, acquired⟩ := calm.acquire gate
    rw [acquired, Prod.mk.injEq, Prod.mk.injEq] at permit
    obtain ⟨-, rfl, rfl⟩ := permit
    obtain ⟨later, asked⟩ := (calm.atTime now).ask item.query
    obtain ⟨response, ok⟩ := answered service.calls.length
    rw [answer_atTime, calls_atTime, ok] at asked
    change attempt settings.backoffBase item.query 1 false (settings.maxAttempts - 1)
      (service.atTime now) = _ at attempted
    rw [attempt, asked] at attempted
    obtain ⟨same, rfl⟩ := Prod.mk.inj attempted
    obtain rfl := Option.some.inj same
    exact List.forall_mem_cons.2
      ⟨rfl, ih (((calm.atTime now).calling item.query).atTime later) answered⟩

/-- A search comes to the same with faults, if the attempts for each query suffice. -/
theorem agree_run (temporary : faults.Temporary) (strategies : List SearchStrategy)
    (inStep : InStep faults first second)
    (within : ∀ log, Asked settings strategies first log →
      faults.Within (max settings.maxAttempts 1) first.calls.length (log.map (·.2.attempts))) :
    Agree faults (Except.map SearchOutcome.uncounted) (run settings strategies first)
      (run settings strategies second) := by
  obtain ⟨log, sent, begins, -⟩ := ending_run settings strategies inStep.calm
  have within := within log ⟨sent, begins⟩
  by_cases planned : Plan.ofStrategies strategies = []
  · rw [run_of_eq_nil settings planned, run_of_eq_nil settings planned]
    exact ⟨rfl, inStep⟩
  · rw [run_of_ne_nil settings planned] at sent ⊢
    rw [run_of_ne_nil settings planned]
    have agree := agree_sendAll temporary _ _
      (Gate.opening settings.requestsPerMinute second.clock.now) rfl inStep sent begins within
    exact ⟨bind_conclude_alike _ agree.same, agree.inStep⟩

end Search

end PriorArt
