import Mathlib.Data.List.Forall2
import PriorArt.Strategy.Normalize

/-!
# Strategies in normal form

A document in normal form has the normal forms of its strategies, one for one
(`StrategyDocument.forall₂_strategies_of_normalize`), and their identifiers are trimmed and not
empty (`StrategyDocument.trimmed_of_normalize`). Each of them has what `SearchStrategy.IsNormal`
says, and one is of the first priority (`StrategyDocument.strategies_of_normalize`).
-/

namespace PriorArt

theorem bind_eq_ok {ε α β : Type} {first : Except ε α} {next : α → Except ε β} {result : β} :
    (first >>= next) = .ok result ↔ ∃ value, first = .ok value ∧ next value = .ok result := by
  cases first with
  | error error => simp [bind, Except.bind]
  | ok value => simp [bind, Except.bind]

theorem mapM_eq_ok {ε α β : Type} {f : α → Except ε β} :
    ∀ {items : List α} {results : List β},
      items.mapM f = .ok results ↔ List.Forall₂ (fun item result => f item = .ok result) items
        results
  | [], results => by simp [pure, Except.pure, eq_comm]
  | item :: rest, results => by
    rw [List.mapM_cons, bind_eq_ok, List.forall₂_cons_left_iff]
    simp only [bind_eq_ok, mapM_eq_ok, pure, Except.pure, Except.ok.injEq]
    constructor
    · rintro ⟨first, ofItem, others, ofRest, rfl⟩
      exact ⟨first, others, ofItem, ofRest, rfl⟩
    · rintro ⟨first, others, ofItem, ofRest, rfl⟩
      exact ⟨first, ofItem, others, ofRest, rfl⟩

theorem exists_of_mapM_eq_ok {ε α β : Type} {f : α → Except ε β} {items : List α}
    {results : List β} (h : items.mapM f = .ok results) {result : β} (member : result ∈ results) :
    ∃ item ∈ items, f item = .ok result := by
  have each := mapM_eq_ok.1 h
  clear h
  induction each with
  | nil => cases member
  | cons first _ ih =>
    rcases List.mem_cons.1 member with rfl | member
    · exact ⟨_, List.mem_cons_self, first⟩
    · obtain ⟨item, inRest, same⟩ := ih member
      exact ⟨item, List.mem_cons_of_mem _ inRest, same⟩

@[simp] theorem require_eq_ok {holds : Bool} {violation : Violation} {done : Unit} :
    require holds violation = .ok done ↔ holds = true := by
  unfold require
  split <;> simp [*]

theorem TermFamily.canonical_of_normalize {id : String} {family normal : TermFamily}
    (h : family.normalize id = .ok normal) :
    Text.trim normal.canonical = normal.canonical ∧ normal.canonical ≠ "" := by
  unfold normalize requireCount at h
  simp only [bind_eq_ok, require_eq_ok] at h
  obtain ⟨_, given, _, -, _, -, _, -, form⟩ := h
  cases form
  exact ⟨Text.trim_trim _, by simpa using given⟩

namespace SearchStrategy

theorem id_of_normalize {strategy normal : SearchStrategy} (h : strategy.normalize = .ok normal) :
    normal.id = Text.trim strategy.id ∧ normal.id ≠ "" := by
  unfold normalize at h
  simp only [bind_eq_ok, require_eq_ok] at h
  obtain ⟨_, named, _, -, _, -, _, -, _, -, families, -, form⟩ := h
  cases form
  exact ⟨rfl, by simpa using named⟩

/-- What a strategy in normal form has: an identifier, at least one term family, each with a
canonical term, and subclass codes in normal form. All these texts are trimmed. -/
structure IsNormal (strategy : SearchStrategy) : Prop where
  named : strategy.id ≠ ""
  id : Text.trim strategy.id = strategy.id
  families : strategy.termFamilies ≠ []
  terms : ∀ family ∈ strategy.termFamilies,
    Text.trim family.canonical = family.canonical ∧ family.canonical ≠ ""
  cpcSubclasses : Cpc.normalize strategy.cpcSubclasses = strategy.cpcSubclasses

theorem isNormal_of_normalize {strategy normal : SearchStrategy}
    (h : strategy.normalize = .ok normal) : normal.IsNormal := by
  obtain ⟨trimmed, named⟩ := id_of_normalize h
  unfold normalize requireCount requireSize at h
  simp only [bind_eq_ok, require_eq_ok] at h
  obtain ⟨_, -, _, -, _, counted, _, -, _, -, families, each, form⟩ := h
  cases form
  constructor
  case named => exact named
  case id => exact Text.trim_trim _
  case families =>
    rintro none
    have length := (mapM_eq_ok.1 each).length_eq
    simp [show families = [] from none] at length
    simp [length] at counted
  case terms =>
    intro family member
    obtain ⟨_, -, ofFamily⟩ := exists_of_mapM_eq_ok each member
    exact TermFamily.canonical_of_normalize ofFamily
  case cpcSubclasses => exact Cpc.normalize_normalize _

end SearchStrategy

namespace StrategyDocument

theorem forall₂_strategies_of_normalize {document normal : StrategyDocument}
    (h : document.normalize = .ok normal) :
    List.Forall₂ (fun strategy form => strategy.normalize = .ok form) document.strategies
      normal.strategies := by
  unfold normalize at h
  simp only [bind_eq_ok] at h
  obtain ⟨_, -, _, -, _, -, _, -, _, -, domains, -, _, -, elements, -, _, -, strategies, each,
    _, -, form⟩ := h
  cases form
  exact mapM_eq_ok.1 each

theorem trimmed_of_normalize {document normal : StrategyDocument}
    (h : document.normalize = .ok normal) :
    ∀ strategy ∈ normal.strategies, Text.trim strategy.id = strategy.id ∧ strategy.id ≠ "" := by
  have forms := forall₂_strategies_of_normalize h
  generalize document.strategies = received at forms
  generalize normal.strategies = strategies at forms ⊢
  induction forms with
  | nil => simp
  | cons ofStrategy _ ih =>
    obtain ⟨trimmed, named⟩ := SearchStrategy.id_of_normalize ofStrategy
    exact List.forall_mem_cons.2 ⟨⟨by rw [trimmed, Text.trim_trim], named⟩, ih⟩

/-- What the strategies of a document in normal form have, and that one of them is carried out
first. -/
theorem strategies_of_normalize {document normal : StrategyDocument}
    (h : document.normalize = .ok normal) :
    (∀ strategy ∈ normal.strategies, strategy.IsNormal) ∧
      ∃ strategy ∈ normal.strategies, strategy.priority = .primary := by
  unfold normalize at h
  simp only [bind_eq_ok, require_eq_ok] at h
  obtain ⟨_, -, _, -, _, -, _, -, _, -, domains, -, _, -, elements, -, _, -, strategies, each,
    _, primary, form⟩ := h
  cases form
  constructor
  · intro strategy member
    obtain ⟨_, -, ofStrategy⟩ := exists_of_mapM_eq_ok each member
    exact SearchStrategy.isNormal_of_normalize ofStrategy
  · simpa using primary

end StrategyDocument

end PriorArt
