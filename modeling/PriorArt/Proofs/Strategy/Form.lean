import PriorArt.Proofs.Distinct
import PriorArt.Proofs.Strategy.Acceptance

/-!
# What an accepted document is like

1. `Cpc.Matches`: the form of a subclass code. The codes that are kept are those of this form, each
   where it comes first (`Cpc.normalize_eq_eraseDups`).
2. `TermFamily.IsFormOf`, `SearchStrategy.IsFormOf`, `NovelElement.IsFormOf`: what a part of an
   accepted document has, and what it keeps of the part that was received.
3. `StrategyDocument.IsFormOf`: the same of a document. It holds whenever one is accepted
   (`StrategyDocument.isFormOf_of_normalize`).
-/

namespace PriorArt

/-! ## Subclass codes -/

namespace Cpc

/-- A letter from `A` to `H` or `Y`, two digits and a capital letter, and nothing else. -/
def Matches (code : String) : Prop :=
  ∃ s d e l, code.toList = [s, d, e, l] ∧ ('A' ≤ s ∧ s ≤ 'H' ∨ s = 'Y') ∧
    ('0' ≤ d ∧ d ≤ '9') ∧ ('0' ≤ e ∧ e ≤ '9') ∧ 'A' ≤ l ∧ l ≤ 'Z'

theorem isSubclass_iff {code : String} : isSubclass code = true ↔ Matches code := by
  unfold isSubclass Matches
  constructor
  · intro h
    split at h
    case h_1 s d e l chars =>
      refine ⟨s, d, e, l, chars, ?_⟩
      simpa [isSection, isDigit, isLetter, and_assoc] using h
    case h_2 => cases h
  · rintro ⟨s, d, e, l, chars, h⟩
    rw [chars]
    simpa [isSection, isDigit, isLetter, and_assoc] using h

instance : DecidablePred Matches := fun _ => decidable_of_iff _ isSubclass_iff

/-- The codes that have the form of a subclass once they are trimmed and raised to upper case are
kept, each where it comes first. -/
theorem normalize_eq_eraseDups (codes : List String) :
    normalize codes =
      ((codes.map fun raw => Text.upper (Text.trim raw)).filter (Matches ·)).eraseDups := by
  induction codes using List.reverseRecOn with
  | nil => rfl
  | append_singleton codes raw ih =>
    have last : normalize (codes ++ [raw]) = keep (normalize codes) raw := by
      simp only [normalize, List.foldl_append, List.foldl_cons, List.foldl_nil]
    rw [last, ih, List.map_append, List.filter_append, List.map_singleton]
    generalize (codes.map fun raw => Text.upper (Text.trim raw)).filter (Matches ·) = kept
    by_cases valid : Matches (Text.upper (Text.trim raw))
    · rw [List.filter_singleton, decide_eq_true valid, cond_true]
      by_cases known : Text.upper (Text.trim raw) ∈ kept
      · rw [eraseDups_concat_of_mem known]
        simp [keep, known]
      · rw [eraseDups_concat_of_not_mem known]
        simp [keep, known, isSubclass_iff.2 valid]
    · have invalid : isSubclass (Text.upper (Text.trim raw)) = false :=
        Bool.eq_false_iff.2 (mt isSubclass_iff.1 valid)
      simp [keep, valid, invalid]

end Cpc

/-! ## Parts of a document -/

/-- The term is trimmed, and the other words are as they were received. -/
structure TermFamily.IsFormOf (normal received : TermFamily) : Prop where
  canonical : normal.canonical = Text.trim received.canonical
  given : normal.canonical ≠ ""
  synonyms : normal.synonyms = received.synonyms
  acronyms : normal.acronyms = received.acronyms
  variants : normal.variants = received.variants

/-- The identifier is trimmed and raised to upper case, and the description is cut and still long
enough. -/
structure NovelElement.IsFormOf (normal received : NovelElement) : Prop where
  id : normal.id = Text.upper (Text.trim received.id)
  description : normal.description = Text.clamp 300 received.description
  size : 20 ≤ Text.size normal.description ∧ normal.description.length ≤ 300

/-- The texts are trimmed, the description is cut and still long enough, and there are as many term
families and phrases as were received, in the same order. Of the subclass codes those are left that
have the form of one, each once. -/
structure SearchStrategy.IsFormOf (normal received : SearchStrategy) : Prop where
  id : normal.id = Text.trim received.id
  named : normal.id ≠ ""
  description : normal.description = Text.clamp 200 received.description
  size : 20 ≤ Text.size normal.description ∧ normal.description.length ≤ 200
  priority : normal.priority = received.priority
  termFamilies : List.Forall₂ TermFamily.IsFormOf normal.termFamilies received.termFamilies
  phrases : normal.phrases = received.phrases.map Text.trim
  cpcSubclasses : normal.cpcSubclasses =
    ((received.cpcSubclasses.map fun raw => Text.upper (Text.trim raw)).filter
      (Cpc.Matches ·)).eraseDups
  distinct : normal.cpcSubclasses.Nodup
  subclasses : ∀ code ∈ normal.cpcSubclasses, Cpc.Matches code

theorem forall₂_map_self {α : Type} {relation : α → α → Prop} {form : α → α} {items : List α}
    (each : ∀ item ∈ items, relation (form item) item) :
    List.Forall₂ relation (items.map form) items :=
  List.forall₂_map_left_iff.2 (List.forall₂_same.2 each)

theorem TermFamily.isFormOf_form {family : TermFamily} (wellFormed : family.IsWellFormed) :
    family.form.IsFormOf family :=
  ⟨rfl, wellFormed.canonical, rfl, rfl, rfl⟩

theorem NovelElement.isFormOf_form {element : NovelElement}
    (description : 20 ≤ Text.size element.description)
    (survives : Text.SurvivesCut 20 300 element.description) : element.form.IsFormOf element where
  id := rfl
  description := rfl
  size := ⟨(Text.le_size_clamp_iff (by decide) (by decide)).2 ⟨description, survives⟩,
    Text.length_clamp_le ..⟩

theorem SearchStrategy.isFormOf_form {strategy : SearchStrategy}
    (wellFormed : strategy.IsWellFormed)
    (survives : Text.SurvivesCut 20 200 strategy.description) :
    strategy.form.IsFormOf strategy where
  id := rfl
  named := wellFormed.id
  description := rfl
  size := ⟨(Text.le_size_clamp_iff (by decide) (by decide)).2 ⟨wellFormed.description, survives⟩,
    Text.length_clamp_le ..⟩
  priority := rfl
  termFamilies := forall₂_map_self fun family member =>
    TermFamily.isFormOf_form (wellFormed.families family member)
  phrases := rfl
  cpcSubclasses := Cpc.normalize_eq_eraseDups _
  distinct := Cpc.nodup_normalize _
  subclasses := fun code member =>
    Cpc.isSubclass_iff.1 (Cpc.isSubclass_of_mem_normalize _ code member)

/-! ## Documents -/

namespace StrategyDocument

/-- The texts are trimmed or cut and still long enough, the elements are numbered, and there are as
many elements, domains and strategies as were received, in the same order. -/
structure IsFormOf (normal received : StrategyDocument) : Prop where
  title : normal.title = Text.clamp 200 received.title
  titleSize : 10 ≤ Text.size normal.title ∧ normal.title.length ≤ 200
  summary : normal.summary = Text.clamp 500 received.summary
  summarySize : 50 ≤ Text.size normal.summary ∧ normal.summary.length ≤ 500
  confidence : normal.confidence = received.confidence
  confidenceReason : normal.confidenceReason = Text.trim received.confidenceReason
  domains : normal.domains = received.domains.map Text.trim
  named : ∀ domain ∈ normal.domains, domain ≠ ""
  numbered : normal.elementIds =
    (List.range normal.elements.length).map fun n => "NE" ++ toString (n + 1)
  elementCount : 3 ≤ normal.elements.length ∧ normal.elements.length ≤ 10
  elements : List.Forall₂ NovelElement.IsFormOf normal.elements received.elements
  strategies : List.Forall₂ SearchStrategy.IsFormOf normal.strategies received.strategies
  primary : ∃ strategy ∈ normal.strategies, strategy.priority = .primary

theorem isFormOf_form {document : StrategyDocument} (wellFormed : document.IsWellFormed)
    (survives : document.SurvivesCuts) : document.form.IsFormOf document where
  title := rfl
  titleSize := ⟨(Text.le_size_clamp_iff (by decide) (by decide)).2
    ⟨wellFormed.title, survives.title⟩, Text.length_clamp_le ..⟩
  summary := rfl
  summarySize := ⟨(Text.le_size_clamp_iff (by decide) (by decide)).2
    ⟨wellFormed.summary, survives.summary⟩, Text.length_clamp_le ..⟩
  confidence := rfl
  confidenceReason := rfl
  domains := rfl
  named := by
    intro domain member
    obtain ⟨received, inReceived, rfl⟩ := List.mem_map.1 member
    exact wellFormed.named received inReceived
  numbered := by
    have ids : document.form.elementIds =
        document.elements.map fun element => Text.upper (Text.trim element.id) := List.map_map ..
    rw [ids, wellFormed.inOrder, form, List.length_map]
  elementCount := by
    rw [form, List.length_map]
    exact wellFormed.elements
  elements := forall₂_map_self fun element member =>
    NovelElement.isFormOf_form (wellFormed.descriptions element member)
      (survives.elements element member)
  strategies := forall₂_map_self fun strategy member =>
    SearchStrategy.isFormOf_form (wellFormed.each strategy member)
      (survives.strategies strategy member)
  primary := by
    obtain ⟨strategy, member, primary⟩ := wellFormed.primary
    exact ⟨strategy.form, List.mem_map_of_mem member, primary⟩

/-- **The form of an accepted document.** Whatever was received, the result has all that later
stages rely on, and keeps what was received but for trimming, cutting and codes that are none. -/
theorem isFormOf_of_normalize {document normal : StrategyDocument}
    (accepted : document.normalize = .ok normal) : normal.IsFormOf document := by
  obtain ⟨⟨wellFormed, survives⟩, rfl⟩ := (normalize_eq_ok_iff document normal).1 accepted
  exact isFormOf_form wellFormed survives

/-- Of four codes, one of them narrower than a subclass and one written twice, two are left. -/
theorem isFormOf_of_normalize_roof :
    roofDocument.normalize = .ok roofDocument.form ∧ roofDocument.form.IsFormOf roofDocument ∧
      roofDocument.form.elementIds = ["NE1", "NE2", "NE3"] ∧
      roofDocument.form.strategies.map (·.cpcSubclasses) = [["E04D", "E04B"], [], []] := by
  refine ⟨normalize_roof, isFormOf_of_normalize normalize_roof, ?_, ?_⟩
  · decide +kernel
  · decide +kernel

end StrategyDocument

end PriorArt
