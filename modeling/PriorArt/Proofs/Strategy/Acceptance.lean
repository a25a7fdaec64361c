import PriorArt.Proofs.Strategy.Normal
import PriorArt.Proofs.Text.Blank

/-!
# The documents that are accepted

1. `Text.SurvivesCut`: a text that is too long keeps its least size when it is cut
   (`Text.le_size_clamp_iff`).
2. `TermFamily.form`, `SearchStrategy.form`, `NovelElement.form`, `StrategyDocument.form`: what
   becomes of a part that is accepted. Each comes with the conditions under which it is
   (`StrategyDocument.normalize_eq_ok_iff`), all of them conditions on the part as it was received.
3. `StrategyDocument.exists_normalize_iff`: the documents that are accepted. Among those that are
   well formed there is one that is not (`StrategyDocument.normalize_gapped`).
-/

namespace PriorArt

/-! ## Texts that are cut -/

namespace Text

/-- If the trimmed text is longer than `most` characters, those that are kept of it are not all
blank from the `least`-th one on. -/
def SurvivesCut (least most : Nat) (s : String) : Prop :=
  most < size s → ∃ place, least ≤ place + 1 ∧ place < most ∧ IsWritten (trim s).toList place

theorem isWritten_zero {s : String} (some : 0 < size s) : IsWritten (trim s).toList 0 := by
  rw [toList_trim]
  have first : (trimList s.toList)[0]? = .some (trimList s.toList)[0] :=
    List.getElem?_eq_getElem some
  exact ⟨_, first, isBlank_head?_trimList _ (List.head?_eq_getElem?.trans first)⟩

theorem le_size_clamp_iff {least most : Nat} (positive : 0 < least) (inOrder : least ≤ most)
    {s : String} : least ≤ size (clamp most s) ↔ least ≤ size s ∧ SurvivesCut least most s := by
  rcases Nat.lt_or_ge most (size s) with long | short
  · rw [size, toList_clamp, ← toList_trim, le_length_trimList_iff]
    constructor
    · rintro (rfl | ⟨first, last, -, written, -, enough⟩)
      · exact absurd positive (Nat.lt_irrefl 0)
      · obtain ⟨kept, written⟩ := isWritten_take.1 written
        exact ⟨Nat.le_trans inOrder (Nat.le_of_lt long), fun _ => ⟨last, by omega, kept, written⟩⟩
    · rintro ⟨-, survives⟩
      obtain ⟨place, enough, kept, written⟩ := survives long
      have first := isWritten_zero (Nat.zero_lt_of_lt long)
      refine .inr ⟨0, place, isWritten_take.2 ⟨?_, first⟩, isWritten_take.2 ⟨kept, written⟩, ?_, ?_⟩
      · exact Nat.zero_lt_of_lt kept
      · exact Nat.zero_le place
      · exact enough
  · rw [clamp_eq_trim short, size_trim]
    exact ⟨fun enough => ⟨enough, fun long => absurd short (Nat.not_le_of_lt long)⟩, And.left⟩

theorem not_isEmpty_trim_iff {s : String} : (!(trim s).isEmpty) = true ↔ trim s ≠ "" := by
  simp

end Text

/-! ## Sequences of checks -/

section Checks

variable {α β : Type} {result : β}

/-- What comes after a step that gives one value, if it gives any. -/
theorem bind_eq_ok_iff {first : Except Violation α} {passes : Prop} {value : α}
    (given : ∀ other, first = .ok other ↔ passes ∧ other = value)
    {next : α → Except Violation β} :
    (first >>= next) = .ok result ↔ passes ∧ next value = .ok result := by
  rw [bind_eq_ok]
  constructor
  · rintro ⟨other, isFirst, isNext⟩
    obtain ⟨passed, rfl⟩ := (given other).1 isFirst
    exact ⟨passed, isNext⟩
  · rintro ⟨passed, isNext⟩
    exact ⟨value, (given value).2 ⟨passed, rfl⟩, isNext⟩

theorem return_eq_ok {value : β} :
    (pure value : Except Violation β) = .ok result ↔ result = value :=
  ⟨fun same => (Except.ok.inj same).symm, fun same => congrArg Except.ok same.symm⟩

variable {next : Unit → Except Violation β}

theorem require_bind_eq_ok {holds : Bool} {violation : Violation} :
    (require holds violation >>= next) = .ok result ↔ holds = true ∧ next () = .ok result :=
  bind_eq_ok_iff fun _ => by rw [require_eq_ok, eq_self_iff_true, and_true]

theorem requireSize_bind_eq_ok {field : Field} {least : Nat} {text : String} :
    (requireSize field least text >>= next) = .ok result ↔
      least ≤ Text.size text ∧ next () = .ok result := by
  rw [requireSize, require_bind_eq_ok, decide_eq_true_iff]

theorem requireCount_bind_eq_ok {field : Field} {least most actual : Nat} :
    (requireCount field least most actual >>= next) = .ok result ↔
      (least ≤ actual ∧ actual ≤ most) ∧ next () = .ok result := by
  rw [requireCount, require_bind_eq_ok, Bool.and_eq_true, decide_eq_true_iff, decide_eq_true_iff]

theorem mapM_eq_ok_map {f : α → Except Violation β} {passes : α → Prop} {form : α → β}
    (each : ∀ item result, f item = .ok result ↔ passes item ∧ result = form item)
    (items : List α) (results : List β) :
    items.mapM f = .ok results ↔ (∀ item ∈ items, passes item) ∧ results = items.map form := by
  rw [mapM_eq_ok]
  simp only [each]
  induction items generalizing results with
  | nil => simp
  | cons item rest ih =>
    rw [List.forall₂_cons_left_iff, List.forall_mem_cons, List.map_cons]
    constructor
    · rintro ⟨_, others, ⟨passed, rfl⟩, ofRest, rfl⟩
      obtain ⟨passedRest, rfl⟩ := (ih _).1 ofRest
      exact ⟨⟨passed, passedRest⟩, rfl⟩
    · rintro ⟨⟨passed, passedRest⟩, rfl⟩
      exact ⟨_, _, ⟨passed, rfl⟩, (ih _).2 ⟨passedRest, rfl⟩, rfl⟩

end Checks

/-! ## Term families -/

namespace TermFamily

def form (family : TermFamily) : TermFamily :=
  { family with canonical := Text.trim family.canonical }

/-- The term is not blank, and the lists of words are not too long. -/
structure IsWellFormed (family : TermFamily) : Prop where
  canonical : Text.trim family.canonical ≠ ""
  synonyms : family.synonyms.length ≤ 8
  acronyms : family.acronyms.length ≤ 4
  variants : family.variants.length ≤ 4

theorem normalize_eq_ok_iff (id : String) (family normal : TermFamily) :
    family.normalize id = .ok normal ↔ family.IsWellFormed ∧ normal = family.form := by
  unfold normalize
  simp only [require_bind_eq_ok, requireCount_bind_eq_ok, return_eq_ok,
    Text.not_isEmpty_trim_iff, Nat.zero_le, true_and]
  constructor
  · rintro ⟨canonical, synonyms, acronyms, variants, rfl⟩
    exact ⟨⟨canonical, synonyms, acronyms, variants⟩, rfl⟩
  · rintro ⟨⟨canonical, synonyms, acronyms, variants⟩, rfl⟩
    exact ⟨canonical, synonyms, acronyms, variants, rfl⟩

end TermFamily

/-! ## Strategies -/

namespace SearchStrategy

/-- The strategy with its texts trimmed, its description cut, and its subclass codes in normal
form. -/
def form (strategy : SearchStrategy) : SearchStrategy :=
  { strategy with
    id := Text.trim strategy.id
    description := Text.clamp 200 strategy.description
    termFamilies := strategy.termFamilies.map (·.form)
    phrases := strategy.phrases.map Text.trim
    cpcSubclasses := Cpc.normalize strategy.cpcSubclasses }

/-- The strategy has an identifier, a description that is long enough, term families that are well
formed, and not too many of anything. -/
structure IsWellFormed (strategy : SearchStrategy) : Prop where
  id : Text.trim strategy.id ≠ ""
  description : 20 ≤ Text.size strategy.description
  termFamilies : 1 ≤ strategy.termFamilies.length ∧ strategy.termFamilies.length ≤ 8
  families : ∀ family ∈ strategy.termFamilies, family.IsWellFormed
  phrases : strategy.phrases.length ≤ 5
  cpcSubclasses : strategy.cpcSubclasses.length ≤ 5

theorem normalize_eq_ok_iff (strategy normal : SearchStrategy) :
    strategy.normalize = .ok normal ↔
      (strategy.IsWellFormed ∧ Text.SurvivesCut 20 200 strategy.description) ∧
        normal = strategy.form := by
  have families := mapM_eq_ok_map (TermFamily.normalize_eq_ok_iff (Text.trim strategy.id))
    strategy.termFamilies
  have size : leastDescription ≤ Text.size (Text.clamp mostDescription strategy.description) ↔ _ :=
    Text.le_size_clamp_iff (by decide) (by decide)
  unfold normalize
  simp only [require_bind_eq_ok, requireSize_bind_eq_ok, requireCount_bind_eq_ok,
    bind_eq_ok_iff families, return_eq_ok, size, Text.not_isEmpty_trim_iff, Nat.zero_le, true_and]
  constructor
  · rintro ⟨id, ⟨description, survives⟩, termFamilies, phrases, cpcSubclasses, families, rfl⟩
    exact ⟨⟨⟨id, description, termFamilies, families, phrases, cpcSubclasses⟩, survives⟩, rfl⟩
  · rintro ⟨⟨⟨id, description, termFamilies, families, phrases, cpcSubclasses⟩, survives⟩, rfl⟩
    exact ⟨id, ⟨description, survives⟩, termFamilies, phrases, cpcSubclasses, families, rfl⟩

end SearchStrategy

/-! ## Novel elements -/

namespace NovelElement

/-- The element with its identifier trimmed and raised to upper case, and its description cut. -/
def form (element : NovelElement) : NovelElement where
  id := Text.upper (Text.trim element.id)
  description := Text.clamp 300 element.description

/-- No two positions have one identifier. -/
theorem idAt_inj {position other : Nat} (same : idAt position = idAt other) : position = other := by
  have numbers := (String.append_right_inj _).1 same
  have digits := congrArg (fun text => Nat.ofDigitChars 10 text.toList 0) numbers
  simpa [Nat.ofDigitChars_toDigits] using digits

/-- An element passes if it has the identifier of its position and a description that is long
enough. No identifier is repeated as long as those before it have other positions. -/
theorem normalize_eq_ok_iff {seen : List String} {position : Nat} (new : idAt position ∉ seen)
    (element normal : NovelElement) :
    element.normalize seen position = .ok normal ↔
      (element.form.id = idAt position ∧ 20 ≤ Text.size element.description ∧
        Text.SurvivesCut 20 300 element.description) ∧ normal = element.form := by
  have size : leastDescription ≤ Text.size (Text.clamp mostDescription element.description) ↔ _ :=
    Text.le_size_clamp_iff (by decide) (by decide)
  unfold normalize
  simp only [require_bind_eq_ok, requireSize_bind_eq_ok, return_eq_ok, size, Bool.not_eq_true',
    decide_eq_true_eq, List.contains_eq_mem, decide_eq_false_iff_not]
  constructor
  · rintro ⟨-, inOrder, description, rfl⟩
    exact ⟨⟨inOrder, description⟩, rfl⟩
  · rintro ⟨⟨inOrder, description⟩, rfl⟩
    have id : Text.upper (Text.trim element.id) = idAt position := inOrder
    exact ⟨id ▸ new, id, description, rfl⟩

theorem normalizeFrom_eq_ok_iff {seen : List String} {position : Nat}
    (new : ∀ later, position ≤ later → idAt later ∉ seen) (elements forms : List NovelElement) :
    normalizeFrom seen position elements = .ok forms ↔
      (elements.map (·.form.id) = (List.range' position elements.length).map idAt ∧
        ∀ element ∈ elements, 20 ≤ Text.size element.description ∧
          Text.SurvivesCut 20 300 element.description) ∧ forms = elements.map form := by
  induction elements generalizing seen position forms with
  | nil => simp [normalizeFrom, eq_comm]
  | cons element rest ih =>
    have first := normalize_eq_ok_iff (new position (Nat.le_refl _)) element
    rw [normalizeFrom, bind_eq_ok_iff first, List.map_cons, List.length_cons, List.range'_succ,
      List.map_cons, List.cons.injEq, List.forall_mem_cons, List.map_cons]
    -- the identifier of this position is none of a later one
    have newLater (inOrder : element.form.id = idAt position) (later : Nat)
        (further : position + 1 ≤ later) : idAt later ∉ element.form.id :: seen := by
      rw [List.mem_cons, inOrder, not_or]
      refine ⟨fun same => ?_, new later (Nat.le_of_succ_le further)⟩
      have := idAt_inj same
      omega
    constructor
    · rintro ⟨⟨inOrder, description⟩, ofRest⟩
      rw [bind_eq_ok_iff (ih (newLater inOrder)), return_eq_ok] at ofRest
      obtain ⟨⟨inOrderRest, descriptions⟩, rfl⟩ := ofRest
      exact ⟨⟨⟨inOrder, inOrderRest⟩, description, descriptions⟩, rfl⟩
    · rintro ⟨⟨⟨inOrder, inOrderRest⟩, description, descriptions⟩, rfl⟩
      refine ⟨⟨inOrder, description⟩, ?_⟩
      rw [bind_eq_ok_iff (ih (newLater inOrder)), return_eq_ok]
      exact ⟨⟨inOrderRest, descriptions⟩, rfl⟩

end NovelElement

/-! ## Documents -/

namespace StrategyDocument

/-- The document with its texts trimmed, those that are too long cut, and the forms of its parts. -/
def form (document : StrategyDocument) : StrategyDocument :=
  { document with
    title := Text.clamp 200 document.title
    summary := Text.clamp 500 document.summary
    elements := document.elements.map (·.form)
    domains := document.domains.map Text.trim
    strategies := document.strategies.map (·.form)
    confidenceReason := Text.trim document.confidenceReason }

/-- What is asked of a document as it is received. Texts are measured once they are trimmed. -/
structure IsWellFormed (document : StrategyDocument) : Prop where
  title : 10 ≤ Text.size document.title
  summary : 50 ≤ Text.size document.summary
  confidenceReason : 10 ≤ Text.size document.confidenceReason
  confidence : document.confidence.isFinite = true ∧ document.confidence.lt .zero = false ∧
    Binary64.one.lt document.confidence = false
  domains : 1 ≤ document.domains.length ∧ document.domains.length ≤ 5
  named : ∀ domain ∈ document.domains, Text.trim domain ≠ ""
  elements : 3 ≤ document.elements.length ∧ document.elements.length ≤ 10
  inOrder : document.elements.map (fun element => Text.upper (Text.trim element.id)) =
    (List.range document.elements.length).map fun n => "NE" ++ toString (n + 1)
  descriptions : ∀ element ∈ document.elements, 20 ≤ Text.size element.description
  strategies : 3 ≤ document.strategies.length ∧ document.strategies.length ≤ 5
  each : ∀ strategy ∈ document.strategies, strategy.IsWellFormed
  primary : ∃ strategy ∈ document.strategies, strategy.priority = .primary

/-- No text of the document falls short of its least size because it is too long. -/
structure SurvivesCuts (document : StrategyDocument) : Prop where
  title : Text.SurvivesCut 10 200 document.title
  summary : Text.SurvivesCut 50 500 document.summary
  elements : ∀ element ∈ document.elements, Text.SurvivesCut 20 300 element.description
  strategies : ∀ strategy ∈ document.strategies, Text.SurvivesCut 20 200 strategy.description

theorem normalizeDomain_eq_ok_iff (domain normal : String) :
    normalizeDomain domain = .ok normal ↔ Text.trim domain ≠ "" ∧ normal = Text.trim domain := by
  unfold normalizeDomain
  rw [require_bind_eq_ok, return_eq_ok, Text.not_isEmpty_trim_iff]

theorem any_primary_form (strategies : List SearchStrategy) :
    (strategies.map (·.form)).any (·.priority = .primary) = true ↔
      ∃ strategy ∈ strategies, strategy.priority = .primary := by
  simp [SearchStrategy.form]

/-- A document is accepted under these conditions, and becomes its form. -/
theorem normalize_eq_ok_iff (document normal : StrategyDocument) :
    document.normalize = .ok normal ↔
      (document.IsWellFormed ∧ document.SurvivesCuts) ∧ normal = document.form := by
  have titleSize : leastTitle ≤ Text.size (Text.clamp mostTitle document.title) ↔ _ :=
    Text.le_size_clamp_iff (by decide) (by decide)
  have summarySize : leastSummary ≤ Text.size (Text.clamp mostSummary document.summary) ↔ _ :=
    Text.le_size_clamp_iff (by decide) (by decide)
  have domainForms := mapM_eq_ok_map normalizeDomain_eq_ok_iff document.domains
  have elementForms (forms : List NovelElement) :
      NovelElement.normalizeFrom [] 0 document.elements = .ok forms ↔ _ :=
    NovelElement.normalizeFrom_eq_ok_iff (fun _ _ => List.not_mem_nil) document.elements forms
  have strategyForms := mapM_eq_ok_map SearchStrategy.normalize_eq_ok_iff document.strategies
  unfold normalize
  simp only [require_bind_eq_ok, requireSize_bind_eq_ok, requireCount_bind_eq_ok,
    bind_eq_ok_iff domainForms, bind_eq_ok_iff elementForms, bind_eq_ok_iff strategyForms,
    return_eq_ok, titleSize, summarySize, Text.size_trim, Binary64.inUnitInterval_iff,
    any_primary_form, ← List.range_eq_range', forall_and]
  constructor
  · rintro ⟨⟨title, cutTitle⟩, ⟨summary, cutSummary⟩, confidence, confidenceReason, domains, named,
      elements, ⟨inOrder, descriptions, cutElements⟩, strategies, ⟨each, cutStrategies⟩, primary,
      rfl⟩
    refine ⟨⟨?_, ⟨cutTitle, cutSummary, cutElements, cutStrategies⟩⟩, rfl⟩
    exact ⟨title, summary, confidenceReason, confidence, domains, named, elements, inOrder,
      descriptions, strategies, each, primary⟩
  · rintro ⟨⟨wellFormed, survives⟩, rfl⟩
    exact ⟨⟨wellFormed.title, survives.title⟩, ⟨wellFormed.summary, survives.summary⟩,
      wellFormed.confidence, wellFormed.confidenceReason, wellFormed.domains, wellFormed.named,
      wellFormed.elements, ⟨wellFormed.inOrder, wellFormed.descriptions, survives.elements⟩,
      wellFormed.strategies, ⟨wellFormed.each, survives.strategies⟩, wellFormed.primary, rfl⟩

/-- **The documents that are accepted** are those that are well formed, unless one of their texts is
too long and what is kept of it falls short of its least size. -/
theorem exists_normalize_iff (document : StrategyDocument) :
    (∃ normal, document.normalize = .ok normal) ↔
      document.IsWellFormed ∧ document.SurvivesCuts := by
  constructor
  · rintro ⟨normal, accepted⟩
    exact ((normalize_eq_ok_iff document normal).1 accepted).1
  · intro conditions
    exact ⟨document.form, (normalize_eq_ok_iff document document.form).2 ⟨conditions, rfl⟩⟩

/-! ### A title with a gap -/

/-- The identifiers and the codes are written in several ways. -/
def roofDocument : StrategyDocument :=
  { title := " A roof that seals itself "
    summary := "A roof of tiles that swell in the rain and close the gaps."
    elements :=
      [⟨" ne1", "Tiles that swell when wet"⟩, ⟨"Ne2 ", "Gaps between the tiles"⟩,
        ⟨"NE3", "Laths that let tiles move"⟩]
    domains := [" roofs "]
    strategies :=
      [⟨" A", "Tiles that swell when wet", .tertiary, [⟨" tile", ["shingle"], ["RT"], ["slate"]⟩],
          [" swelling tile"], ["e04d", "E04D 1/00", "E04B", " E04D"]⟩,
        ⟨"B", "Gaps between the tiles", .primary, [⟨"gap", [], [], []⟩], [], []⟩,
        ⟨"C", "Laths that let tiles move", .secondary, [⟨"lath", [], [], []⟩], [" "], ["Z99Z"]⟩]
    confidence := .zero
    confidenceReason := "Clear text" }

theorem normalize_roof : roofDocument.normalize = .ok roofDocument.form := by
  decide +kernel

/-- More blank characters than a title may have stand between the first word and the others. -/
def gappedDocument : StrategyDocument :=
  { roofDocument with
    title := "Roof" ++ String.ofList (List.replicate 200 ' ') ++ "that seals itself" }

theorem toList_gapped : gappedDocument.title.toList =
    "Roof".toList ++ List.replicate 200 ' ' ++ "that seals itself".toList := by
  simp only [gappedDocument, String.toList_append, String.toList_ofList]

/-- The title is long enough, but it is cut within the gap, and what is kept is too short. -/
theorem normalize_gapped :
    gappedDocument.IsWellFormed ∧ gappedDocument.normalize = .error (.tooShort .title 10) := by
  obtain ⟨⟨wellFormed, -⟩, -⟩ := (normalize_eq_ok_iff ..).1 normalize_roof
  have title : Text.size gappedDocument.title = 221 := by
    rw [Text.size, toList_gapped]
    decide +kernel
  have cut : Text.size (Text.clamp mostTitle gappedDocument.title) = 4 := by
    rw [Text.size, Text.toList_clamp, toList_gapped]
    decide +kernel
  have tooShort : requireSize .title leastTitle (Text.clamp mostTitle gappedDocument.title) =
      .error (.tooShort .title 10) := by
    rw [requireSize, cut]
    rfl
  constructor
  · exact ⟨title ▸ by decide, wellFormed.summary, wellFormed.confidenceReason,
      wellFormed.confidence, wellFormed.domains, wellFormed.named, wellFormed.elements,
      wellFormed.inOrder, wellFormed.descriptions, wellFormed.strategies, wellFormed.each,
      wellFormed.primary⟩
  · unfold normalize
    dsimp only
    rw [tooShort]
    rfl

end StrategyDocument

end PriorArt
