import PriorArt.Proofs.Query.Composition
import PriorArt.Proofs.Query.Tokens
import PriorArt.Proofs.Strategy.Acceptance

/-!
# Planning before and after normalization

Planning trims what normalization trims and keeps the subclass codes that it keeps, and so it does
not matter which comes first.

1. `Tokens.ofFamilies_map_form`: families have the same tokens once their terms are trimmed.
2. `Plan.ofStrategy_form`: a strategy has the same queries in its normal form.
3. `Plan.byPriority_map_form`: normal forms come in the order of their strategies.
4. `Plan.ofStrategies_of_normalize`: the plan for a document that is accepted is that for the
   document as it was received.
-/

namespace PriorArt

/-! ## Tokens -/

namespace Tokens

theorem wordsOf_trim (text : String) : wordsOf (Text.trim text) = wordsOf text := by
  have blank (c : Char) (h : Text.isBlank c = true) : separates c = true := by
    simp [separates, h]
  rw [← ofText_eq_wordsOf, ← ofText_eq_wordsOf, ofText, Text.pieces_trim blank, ← ofText]

theorem words_form (family : TermFamily) : words family.form = words family := by
  simp only [words, TermFamily.form, List.flatMap_cons, wordsOf_trim]

theorem ofFamilies_map_form (families : List TermFamily) :
    ofFamilies (families.map (·.form)) = ofFamilies families := by
  have acronyms : ofAcronyms (families.map (·.form)) = ofAcronyms families :=
    List.flatMap_map ..
  simp only [ofFamilies_eq_taken, acronyms, List.flatMap_map, words_form]

end Tokens

namespace Plan

open StrategyDocument (roofDocument)

/-! ## The queries of one strategy -/

section Form

variable (strategy : SearchStrategy)

theorem id_form : Text.trim strategy.form.id = Text.trim strategy.id :=
  Text.trim_trim _

theorem cpcs_form :
    Cpc.normalize strategy.form.cpcSubclasses = Cpc.normalize strategy.cpcSubclasses :=
  Cpc.normalize_normalize _

theorem givenPhrases_form : givenPhrases strategy.form = givenPhrases strategy := by
  simp only [givenPhrases, SearchStrategy.form, List.map_map, Function.comp_def, Text.trim_trim]

theorem givenTerms_form : givenTerms strategy.form = givenTerms strategy := by
  simp only [givenTerms, SearchStrategy.form, TermFamily.form, List.map_map, Function.comp_def,
    Text.trim_trim]

theorem narrowQueries_form : narrowQueries strategy.form = narrowQueries strategy := by
  unfold narrowQueries
  rw [givenPhrases_form, givenTerms_form, id_form, cpcs_form]

theorem broadQueries_form : broadQueries strategy.form = broadQueries strategy := by
  have tokens : Tokens.ofFamilies strategy.form.termFamilies =
      Tokens.ofFamilies strategy.termFamilies := Tokens.ofFamilies_map_form _
  unfold broadQueries
  rw [givenTerms_form, tokens, id_form, cpcs_form]

theorem ofStrategy_form : ofStrategy strategy.form = ofStrategy strategy := by
  rw [ofStrategy_eq_append, ofStrategy_eq_append, narrowQueries_form, broadQueries_form, id_form]

end Form

/-! ## The plan -/

theorem byPriority_map_form (strategies : List SearchStrategy) :
    byPriority (strategies.map (·.form)) = (byPriority strategies).map (·.form) := by
  simp only [byPriority, List.filter_map, List.map_flatMap]
  rfl

/-- The plan for a list of strategies is that for their normal forms, accepted or not. -/
theorem ofStrategies_map_form (strategies : List SearchStrategy) :
    ofStrategies (strategies.map (·.form)) = ofStrategies strategies := by
  simp only [ofStrategies, inOrder_eq_byPriority, byPriority_map_form, List.flatMap_map,
    ofStrategy_form]

/-- **Planning and normalization commute.** An accepted document has the plan of the document as it
was received: the same queries with the same identifiers, in the same order. -/
theorem ofStrategies_of_normalize {document normal : StrategyDocument}
    (accepted : document.normalize = .ok normal) :
    ofStrategies document.strategies = ofStrategies normal.strategies := by
  obtain ⟨-, rfl⟩ := (StrategyDocument.normalize_eq_ok_iff document normal).1 accepted
  exact (ofStrategies_map_form document.strategies).symm

/-- Identifiers, codes, a term and a phrase are received with blank ends, and two of four codes are
dropped. -/
theorem ofStrategies_of_normalize_roof :
    roofDocument.normalize = .ok roofDocument.form ∧
      roofDocument.strategies ≠ roofDocument.form.strategies ∧
      ofStrategies roofDocument.strategies = ofStrategies roofDocument.form.strategies ∧
      (ofStrategies roofDocument.strategies).map (fun item => (item.id, item.query)) =
        [("B_narrow_all", ⟨.allWords, "gap", []⟩), ("B_broad", ⟨.allWords, "gap", []⟩),
          ("C_narrow_all", ⟨.allWords, "lath", []⟩), ("C_broad", ⟨.allWords, "lath", []⟩),
          ("A_narrow_p1", ⟨.phrase, "swelling tile", ["E04D", "E04B"]⟩),
          ("A_broad", ⟨.anyWord, "tile shingle rt", ["E04D", "E04B"]⟩)] := by
  refine ⟨StrategyDocument.normalize_roof, by decide +kernel,
    ofStrategies_of_normalize StrategyDocument.normalize_roof, ?_⟩
  rw [ofStrategies, inOrder_eq_byPriority]
  decide +kernel

end Plan

end PriorArt
