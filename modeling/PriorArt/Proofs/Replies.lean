import PriorArt.Run.Analysis
import PriorArt.Run.Assessment
import PriorArt.Run.Planning

/-!
# What stages take from replies

However often a stage asks, what it brings in the end is what it reads in one reply
(`Stage.accepted_of_run`), and the assessments of a batch are those of its members in one reply,
with stand-ins for the rest (`Assess.assigned_of_attempt`).
-/

namespace PriorArt

namespace Stage

variable {α : Type} {stage : Stage} {base : Nat} {prompt : String}
  {read : String → Except ContentDefect α} {value : α}

theorem read_of_attempt {number : Nat} {feedback : Option String} {metrics : Metrics} {left : Nat}
    {reasoner : Reasoner}
    (ok : (attempt stage base prompt read number feedback metrics left reasoner).1.output =
      .ok value) :
    ∃ reply, read reply = .ok value := by
  fun_induction attempt stage base prompt read number feedback metrics left reasoner with
  | case1 => cases ok
  | case2 _ _ _ _ _ _ _ _ _ _ _ _ _ ih => exact ih ok
  | case3 => cases ok
  | case4 => cases ok
  | case5 _ _ _ _ _ _ reply _ _ _ accepted => cases ok; exact ⟨reply, accepted⟩
  | case6 _ _ _ _ _ _ _ _ _ _ _ ih => exact ih ok
  | case7 => cases ok

theorem accepted_of_readReply {accept : Json → Option (Except Violation α)} {reply : String}
    (ok : readReply accept reply = .ok value) : ∃ json, accept json = some (.ok value) := by
  unfold readReply at ok
  dsimp only at ok
  split at ok
  · cases ok
  · split at ok
    · cases ok
    · cases ok
    · rename_i accepted
      cases ok
      obtain ⟨json, -, accepted⟩ := Option.bind_eq_some_iff.1 accepted
      exact ⟨json, accepted⟩

theorem readReply_of_toList {accept : Json → Option (Except Violation α)} {reply : String}
    {cs : List Char} (chars : reply.toList = cs) (given : Text.unfenceList cs ≠ [])
    (accepted : (Json.read? (String.ofList (Text.unfenceList cs))).bind accept =
      some (.ok value)) :
    readReply accept reply = .ok value := by
  have text : Text.unfence reply = String.ofList (Text.unfenceList cs) := by
    rw [Text.unfence, chars]
  have full : (Text.unfence reply).isEmpty ≠ true := by
    rw [text, ne_eq, String.isEmpty_iff, String.ofList_eq_empty_iff]
    exact given
  unfold readReply
  dsimp only
  rw [if_neg full, text, accepted]

theorem attempt_of_read {number : Nat} {feedback : Option String} {metrics : Metrics} {left : Nat}
    {reasoner after : Reasoner} {reply : String}
    (asked : reasoner.ask (promptWith prompt feedback) = (.answered reply, after))
    (accepted : read reply = .ok value) :
    attempt stage base prompt read number feedback metrics left reasoner =
      (⟨.ok value, metrics.attempted, none⟩, after) := by
  unfold attempt
  rw [asked]
  dsimp only
  rw [accepted]

theorem accepted_of_run {budget : RetryBudget} {accept : Json → Option (Except Violation α)}
    {reasoner : Reasoner} (ok : (run stage budget prompt accept reasoner).1.output = .ok value) :
    ∃ json, accept json = some (.ok value) := by
  obtain ⟨reply, ok⟩ := read_of_attempt ok
  exact accepted_of_readReply ok

end Stage

theorem Planning.normalize_of_run {budget : RetryBudget} {request : Request} {reasoner : Reasoner}
    {strategy : StrategyDocument} (ok : (run budget request reasoner).1.output = .ok strategy) :
    ∃ document : StrategyDocument, document.normalize = .ok strategy := by
  obtain ⟨json, accepted⟩ := Stage.accepted_of_run ok
  obtain ⟨document, -, normal⟩ := Option.map_eq_some_iff.1 accepted
  exact ⟨document, normal⟩

theorem Analysis.reconcile_of_run {budget : RetryBudget} {document : StrategyDocument}
    {stats : Statistics} {assessments : List Assessment} {reasoner : Reasoner}
    {analysis : LandscapeAnalysis}
    (ok : (run budget document stats assessments reasoner).1.output = .ok analysis) :
    ∃ draft, Narrative.reconcile draft stats assessments =
      .ok (analysis.narrative, analysis.corrections) := by
  obtain ⟨json, accepted⟩ := Stage.accepted_of_run ok
  obtain ⟨draft, -, reconciled⟩ := Option.map_eq_some_iff.1 accepted
  refine ⟨draft, ?_⟩
  generalize Narrative.reconcile draft stats assessments = outcome at reconciled ⊢
  cases outcome with
  | error violation => cases reconciled
  | ok pair => cases reconciled; rfl

/-- The assessments of a batch are those that one reply has for its members. -/
theorem Assess.assigned_of_attempt {base : Nat} {known members : List String} {prompt : String}
    {read : String → Option (List Assessment)} {number : Nat} {feedback : Option String}
    {counts : Counts} {left : Nat} {reasoner : Reasoner} {assigned : List Assessment}
    (ok : (attempt base known members prompt read number feedback counts left reasoner).1 =
      .ok assigned) :
    ∃ reply entries, read reply = some entries ∧
      assigned = (assign (accepted known members entries) members).1 := by
  fun_induction attempt base known members prompt read number feedback counts left reasoner with
  | case1 => cases ok
  | case2 _ _ _ _ _ _ _ _ _ _ _ _ _ ih => exact ih ok
  | case3 => cases ok
  | case4 => cases ok
  | case5 _ _ _ _ _ _ _ _ _ _ ih => exact ih ok
  | case6 => cases ok
  | case7 _ _ _ _ _ _ _ _ _ _ _ _ _ _ _ _ ih => exact ih ok
  | case8 _ _ _ _ _ _ reply _ _ entries readable _ _ _ _ _ _ assigning _ =>
    cases ok
    exact ⟨reply, entries, readable, (congrArg Prod.fst assigning).symm⟩

end PriorArt
