import PriorArt.Proofs.Distinct
import PriorArt.Proofs.Text.Blank
import PriorArt.Query.Tokens

/-!
# Which words become tokens

1. `Tokens.words`: the words of a family in the order in which they are looked at, with
   `Tokens.IsAdmissible` for those that may become tokens.
2. `Tokens.taken`: what has been taken of a sequence of words. Taking further words extends the
   sequence (`Tokens.take_taken`), and so does taking source after source and family after family
   (`Tokens.foldl_taken`).
3. `Tokens.areDrawnFrom_ofFamilies`: the tokens are the first thirty distinct admissible words, and
   so none is left out as long as there are fewer.
-/

namespace PriorArt

namespace Tokens

/-! ## The words of a family -/

/-- The words of a text: what stands between blank space and hyphens, in lower case. -/
def wordsOf (text : String) : List String :=
  ((text.toList.splitOnP fun c => c = '-' || Text.isBlank c).filter (· ≠ [])).map fun word =>
    Text.lower (.ofList word)

/-- The words of the canonical term, then those of each synonym, then those of each acronym. -/
def words (family : TermFamily) : List String :=
  (family.canonical :: (family.synonyms ++ family.acronyms)).flatMap wordsOf

/-- The word is not too common, and it is long enough or a word of an acronym of any family. -/
def IsAdmissible (families : List TermFamily) (word : String) : Prop :=
  word ∉ stopwords ∧
    (3 ≤ word.length ∨ ∃ family ∈ families, ∃ acronym ∈ family.acronyms, word ∈ wordsOf acronym)

instance (families : List TermFamily) : DecidablePred (IsAdmissible families) :=
  fun word => inferInstanceAs (Decidable (word ∉ stopwords ∧
    (3 ≤ word.length ∨ ∃ family ∈ families, ∃ acronym ∈ family.acronyms, word ∈ wordsOf acronym)))

theorem ofText_eq_wordsOf (text : String) : ofText text = wordsOf text := by
  have nonempty : (fun part : List Char => !part.isEmpty) = fun part => decide (part ≠ []) := by
    funext part
    cases part <;> rfl
  unfold ofText wordsOf Text.pieces
  rw [Text.splitAt_eq_splitOnP, nonempty, List.map_map]
  rfl

theorem ofText_intercalate (texts : List String) :
    ofText (" ".intercalate texts) = texts.flatMap ofText := by
  have space : separates ' ' = true := by decide
  unfold ofText
  rw [Text.pieces_intercalate space, List.map_flatMap]

theorem flatMap_sources (family : TermFamily) : (sources family).flatMap ofText = words family := by
  have each : wordsOf = ofText := funext fun text => (ofText_eq_wordsOf text).symm
  simp only [sources, words, each, List.flatMap_cons, List.flatMap_nil, List.append_nil,
    ofText_intercalate, List.flatMap_append]

theorem isSearchable_iff {families : List TermFamily} {word : String} :
    isSearchable (ofAcronyms families) word = true ↔ IsAdmissible families word := by
  simp only [isSearchable, ofAcronyms, ofText_eq_wordsOf, Bool.and_eq_true, Bool.or_eq_true,
    decide_eq_true_iff, List.contains_iff_mem, List.mem_flatMap, Bool.not_eq_true',
    Bool.eq_false_iff, ne_eq, and_comm]
  rfl

/-! ## What is taken -/

/-- What has been taken once all of a sequence of words have been looked at: the first distinct
ones that are searchable, the latest at the head. -/
def taken (acronyms seen : List String) : List String :=
  ((seen.filter (isSearchable acronyms)).eraseDups.take most).reverse

section Taken

variable {acronyms seen : List String}

theorem taken_of_room (room : (taken acronyms seen).length < most) :
    taken acronyms seen = (seen.filter (isSearchable acronyms)).eraseDups.reverse := by
  rw [taken, List.length_reverse, List.length_take] at room
  rw [taken, List.take_of_length_le (by omega)]

/-- Once there are enough tokens, no further word counts. -/
theorem taken_append_of_full (full : most ≤ (taken acronyms seen).length) (rest : List String) :
    taken acronyms (seen ++ rest) = taken acronyms seen := by
  rw [taken, List.length_reverse, List.length_take] at full
  rw [taken, List.filter_append, List.eraseDups_append, List.take_append_of_le_length (by omega),
    ← taken]

theorem taken_concat (room : (taken acronyms seen).length < most) (word : String) :
    taken acronyms (seen ++ [word]) =
      if isSearchable acronyms word && !(taken acronyms seen).contains word then
        word :: taken acronyms seen
      else taken acronyms seen := by
  have all := taken_of_room room
  rw [all, List.length_reverse] at room
  rw [all]
  by_cases searchable : isSearchable acronyms word = true
  · have last : (seen ++ [word]).filter (isSearchable acronyms) =
        seen.filter (isSearchable acronyms) ++ [word] := by simp [searchable]
    rw [taken, last]
    generalize seen.filter (isSearchable acronyms) = kept at room ⊢
    by_cases known : word ∈ kept
    · rw [eraseDups_concat_of_mem known, List.take_of_length_le (Nat.le_of_lt room)]
      simp [known]
    · have fits : (kept.eraseDups ++ [word]).length ≤ most := by simpa using Nat.succ_le_of_lt room
      rw [eraseDups_concat_of_not_mem known, List.take_of_length_le fits]
      simp [known, searchable]
  · have last : (seen ++ [word]).filter (isSearchable acronyms) =
        seen.filter (isSearchable acronyms) := by simp [searchable]
    rw [taken, last, List.take_of_length_le (Nat.le_of_lt room)]
    simp [searchable]

theorem take_taken (words : List String) :
    take acronyms (taken acronyms seen) words = taken acronyms (seen ++ words) := by
  induction words generalizing seen with
  | nil => rw [take, List.append_nil]
  | cons word rest ih =>
    rw [take]
    by_cases full : most ≤ (taken acronyms seen).length
    · rw [if_pos full, taken_append_of_full full]
    · have next := taken_concat (Nat.lt_of_not_le full) word
      rw [if_neg full, List.append_cons, ← ih, next]
      split <;> rfl

theorem foldl_taken {α : Type} {step : List String → α → List String} {output : α → List String}
    (each : ∀ seen item, step (taken acronyms seen) item = taken acronyms (seen ++ output item))
    (items : List α) :
    items.foldl step (taken acronyms seen) = taken acronyms (seen ++ items.flatMap output) := by
  induction items generalizing seen with
  | nil => simp
  | cons item rest ih => rw [List.foldl_cons, each, ih, List.flatMap_cons, List.append_assoc]

end Taken

/-! ## The tokens of a list of families -/

theorem foldl_sources (acronyms seen : List String) (family : TermFamily) :
    (sources family).foldl (fun taken source => take acronyms taken (ofText source))
      (taken acronyms seen) = taken acronyms (seen ++ words family) := by
  rw [foldl_taken fun _ source => take_taken (ofText source), flatMap_sources]

theorem ofFamilies_eq_taken (families : List TermFamily) :
    ofFamilies families = (taken (ofAcronyms families) (families.flatMap words)).reverse := by
  have all (seen : List String) :
      families.foldl (fun taken family => (sources family).foldl
          (fun taken source => take (ofAcronyms families) taken (ofText source)) taken)
        (taken (ofAcronyms families) seen) =
      taken (ofAcronyms families) (seen ++ families.flatMap words) :=
    foldl_taken (foldl_sources _) families
  exact congrArg List.reverse (all [])

/-- The tokens are the first thirty distinct ones of the admissible words, family by family. If
there are fewer, they are all of these words. -/
structure AreDrawnFrom (families : List TermFamily) (tokens : List String) : Prop where
  first : tokens = ((families.flatMap words).filter (IsAdmissible families ·)).eraseDups.take 30
  all : tokens.length < 30 →
    ∀ word, word ∈ tokens ↔ word ∈ families.flatMap words ∧ IsAdmissible families word

/-- **The tokens of a list of families** are drawn from the words of its terms, whatever characters
these are made of. -/
theorem areDrawnFrom_ofFamilies (families : List TermFamily) :
    AreDrawnFrom families (ofFamilies families) := by
  have same : isSearchable (ofAcronyms families) = (IsAdmissible families ·) :=
    funext fun word => Bool.eq_iff_iff.2 (isSearchable_iff.trans decide_eq_true_iff.symm)
  have first : ofFamilies families =
      ((families.flatMap words).filter (IsAdmissible families ·)).eraseDups.take 30 := by
    rw [ofFamilies_eq_taken, taken, List.reverse_reverse, same, most]
  refine ⟨first, fun few word => ?_⟩
  rw [first, List.length_take] at few
  rw [first, List.take_of_length_le (by omega), List.mem_eraseDups, List.mem_filter,
    decide_eq_true_iff]

/-- A word of two letters counts if an acronym of another family has it, and a letter that becomes
two characters in lower case counts as two. -/
example : ofFamilies [⟨"ai-based method", ["UV lamp"], [], []⟩, ⟨"İl of", [], ["AI"], []⟩] =
    ["ai", "lamp", "i̇l"] := by decide +kernel

end Tokens

end PriorArt
