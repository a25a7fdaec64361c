import Mathlib.Data.List.DropRight
import PriorArt.Config.Load
import PriorArt.Proofs.Text.Blank
import PriorArt.Run.Gate

/-!
# The configurations that are loaded

1. `Text.IsClean`: a text with no white space around it, as trimming leaves one that is not blank.
2. `HasGap`: an address with white space before the slashes at its end. Its normal form ends with
   white space (`hasGap_iff`) and is no normal form of itself (`normalizedBase_idem_iff`).
3. `Config.IsLoaded`: what is so of a configuration that passes the checks, by how it was written.
   Each part comes from the lemma about its check (`Config.isLoaded_iff`).
4. `Config.load_eq_ok_iff`: what loading a file gives. One with a gap in an address is loaded
   (`Config.load_gapped`).
-/

namespace PriorArt

/-! ## Trimmed texts -/

namespace Text

/-- There is something in the text, and no white space at its ends. -/
structure IsClean (s : String) : Prop where
  nonempty : s ≠ ""
  first : ∀ c ∈ s.toList.head?, isBlank c = false
  last : ∀ c ∈ s.toList.getLast?, isBlank c = false

theorem isClean_trim_iff {s : String} : IsClean (trim s) ↔ isBlankText (trim s) = false := by
  rw [← Bool.not_eq_true, isBlankText_iff, trim_trim]
  constructor
  · exact IsClean.nonempty
  · intro some
    refine ⟨some, ?_, ?_⟩
    · rw [toList_trim]
      exact isBlank_head?_trimList
    · rw [toList_trim]
      exact isBlank_getLast?_trimList

end Text

/-! ## Addresses -/

/-- Once the address is trimmed, white space stands before the slashes at its end. -/
def HasGap (base : String) : Prop :=
  ∃ front blank slashes, Text.trimList base.toList = front ++ blank :: slashes ∧
    Text.isBlank blank = true ∧ ∀ c ∈ slashes, c = '/'

theorem toList_normalizedBase (base : String) :
    (normalizedBase base).toList = (Text.trimList base.toList).rdropWhile (· = '/') := by
  rw [normalizedBase, String.toList_ofList, List.rdropWhile]

/-- Only slashes are taken from the trimmed address. -/
theorem exists_slashes (base : String) :
    ∃ slashes, Text.trimList base.toList = (normalizedBase base).toList ++ slashes ∧
      ∀ c ∈ slashes, c = '/' := by
  refine ⟨(Text.trimList base.toList).rtakeWhile (· = '/'), ?_, ?_⟩
  · rw [toList_normalizedBase, List.rdropWhile_append_rtakeWhile]
  · intro c member
    have slash : decide (c = '/') = true := List.mem_rtakeWhile_imp (p := (· = '/')) member
    exact of_decide_eq_true slash

theorem isBlank_head?_normalizedBase (base : String) :
    ∀ c ∈ (normalizedBase base).toList.head?, Text.isBlank c = false := by
  intro c first
  obtain ⟨slashes, trimmed, -⟩ := exists_slashes base
  have firstOfTrimmed : c ∈ (Text.trimList base.toList).head? := by
    rw [trimmed, List.head?_append, Option.mem_def.1 first]
    rfl
  exact Text.isBlank_head?_trimList c firstOfTrimmed

theorem getLast?_normalizedBase_ne (base : String) :
    ∀ c ∈ (normalizedBase base).toList.getLast?, c ≠ '/' := by
  intro c last
  rw [toList_normalizedBase] at last
  have some : (Text.trimList base.toList).rdropWhile (· = '/') ≠ [] := by
    intro none
    rw [none] at last
    cases last
  have kept := List.rdropWhile_last_not (· = '/') (Text.trimList base.toList) some
  rw [List.getLast?_eq_some_getLast some, Option.mem_some] at last
  simpa [last] using kept

theorem hasGap_iff {base : String} :
    HasGap base ↔ ∃ c ∈ (normalizedBase base).toList.getLast?, Text.isBlank c = true := by
  constructor
  · rintro ⟨front, blank, slashes, trimmed, isBlank, allSlashes⟩
    have notSlash : blank ≠ '/' := by
      rintro rfl
      exact absurd isBlank (by decide)
    have rest : (normalizedBase base).toList = front ++ [blank] := by
      have all : ∀ c ∈ slashes, decide (c = '/') = true := fun c member =>
        decide_eq_true (allSlashes c member)
      have dropped := Text.dropEndWhile_append all (front ++ [blank])
      rw [List.append_assoc, List.singleton_append, ← trimmed] at dropped
      rw [toList_normalizedBase]
      refine dropped.trans (List.rdropWhile_concat_neg _ _ _ ?_)
      simpa using notSlash
    exact ⟨blank, by rw [rest]; simp, isBlank⟩
  · rintro ⟨blank, last, isBlank⟩
    obtain ⟨slashes, trimmed, allSlashes⟩ := exists_slashes base
    obtain ⟨front, split⟩ := List.getLast?_eq_some_iff.1 last
    exact ⟨front, blank, slashes, by rw [trimmed, split]; simp, isBlank, allSlashes⟩

theorem not_hasGap_iff {base : String} :
    ¬ HasGap base ↔ ∀ c ∈ (normalizedBase base).toList.getLast?, Text.isBlank c = false := by
  simp only [hasGap_iff, not_exists, not_and, Bool.not_eq_true]

/-- Trimming takes white space from what is left of an address with a gap, and nothing from that of
another one. -/
theorem normalizedBase_idem_iff {base : String} :
    normalizedBase (normalizedBase base) = normalizedBase base ↔ ¬ HasGap base := by
  constructor
  · intro same gap
    obtain ⟨c, last, isBlank⟩ := hasGap_iff.1 gap
    obtain ⟨slashes, trimmed, -⟩ := exists_slashes (normalizedBase base)
    obtain ⟨before, after, whole, -, -⟩ :=
      Text.exists_eq_append_trimList (normalizedBase base).toList
    -- What is trimmed is as long as the whole, so it is the whole and ends like it.
    rw [same] at trimmed
    have size := congrArg List.length whole
    rw [trimmed] at size
    simp only [List.length_append] at size
    have noSlashes : slashes = [] := List.eq_nil_of_length_eq_zero (by omega)
    rw [noSlashes, List.append_nil] at trimmed
    have clean := Text.isBlank_getLast?_trimList c (trimmed.symm ▸ last)
    rw [isBlank] at clean
    cases clean
  · intro noGap
    have trimmed := Text.trimList_eq_self (isBlank_head?_normalizedBase base)
      (not_hasGap_iff.1 noGap)
    rw [← String.toList_inj, toList_normalizedBase, trimmed, toList_normalizedBase,
      List.rdropWhile_idempotent]

/-- What is so of the address in a configuration that was loaded, by how it was written. -/
structure IsBase (written base : String) : Prop where
  nonempty : base ≠ ""
  web : "http://".toList <+: base.toList ∨ "https://".toList <+: base.toList
  slash : ∀ c ∈ base.toList.getLast?, c ≠ '/'
  first : ∀ c ∈ base.toList.head?, Text.isBlank c = false
  last : (∀ c ∈ base.toList.getLast?, Text.isBlank c = false) ↔ ¬ HasGap written

theorem isWeb_iff {address : String} : Address.isWeb address = true ↔
    "http://".toList <+: address.toList ∨ "https://".toList <+: address.toList := by
  simp only [Address.isWeb, Address.schemes, List.any_cons, List.any_nil, Bool.or_false,
    Bool.or_eq_true, List.isPrefixOf_iff_prefix]

theorem isBase_normalizedBase_iff {written : String} :
    IsBase written (normalizedBase written) ↔ Address.isWeb (normalizedBase written) = true := by
  rw [isWeb_iff]
  constructor
  · exact IsBase.web
  · intro web
    refine ⟨?_, web, getLast?_normalizedBase_ne written, isBlank_head?_normalizedBase written,
      not_hasGap_iff.symm⟩
    intro none
    rw [none] at web
    exact absurd web (by decide)

/-! ## Numbers and headers -/

/-- The temperature is neither negative nor greater than two. -/
def IsUpToTwo (x : Binary64) : Prop :=
  ∃ negative quanta, x = .finite negative quanta ∧ 0 ≤ Binary64.units negative quanta ∧
    Binary64.units negative quanta ≤ (2 * Binary64.quantaOfOne : Nat)

theorem mostTemperature_eq : mostTemperature = .finite false (2 * Binary64.quantaOfOne) := by
  decide +kernel

theorem isUpToTwo_iff {x : Binary64} :
    IsUpToTwo x ↔ x.isFinite = true ∧ isTemperature x = true := by
  unfold isTemperature
  rw [Bool.and_eq_true, Bool.not_eq_true', Bool.not_eq_true', mostTemperature_eq]
  constructor
  · rintro ⟨negative, quanta, rfl, least, most⟩
    exact ⟨rfl, decide_eq_false (Int.not_lt.2 least), decide_eq_false (Int.not_lt.2 most)⟩
  · rintro ⟨finite, least, most⟩
    cases x with
    | nan => cases finite
    | infinite negative => cases finite
    | finite negative quanta =>
      exact ⟨negative, quanta, rfl, Int.not_lt.1 (of_decide_eq_false least),
        Int.not_lt.1 (of_decide_eq_false most)⟩

theorem allText_iff {headers : List (String × Json)} :
    allText headers = true ↔ ∀ header ∈ headers, ∃ text, header.2 = .string text := by
  rw [allText, List.all_eq_true]
  refine forall₂_congr fun header _ => ?_
  cases header.2 <;> simp [Json.string?]

/-- A gate for no more permits a minute than that has a period of a millisecond or more. -/
theorem nanosPerMilli_le_periodFor {perMinute : Nat} (notHigh : perMinute ≤ mostRequestsPerMinute) :
    Gate.nanosPerMilli ≤ Gate.periodFor perMinute := by
  rw [Gate.periodFor, Nat.le_div_iff_mul_le (by omega)]
  calc
    Gate.nanosPerMilli * max perMinute 1 ≤ Gate.nanosPerMilli * mostRequestsPerMinute :=
      Nat.mul_le_mul_left _ (Nat.max_le.2 ⟨notHigh, by decide⟩)
    _ = Gate.nanosPerMinute := by decide

namespace Config

/-- The timeouts, pauses, numbers, rates and limits of attempts are not zero. -/
structure IsPositive (config : Config) : Prop where
  patentsTimeout : 1 ≤ config.patents.timeout
  reasoningTimeout : 1 ≤ config.reasoning.timeout
  maxTokens : 1 ≤ config.reasoning.maxTokens
  searchBackoff : 1 ≤ config.limits.search.backoffBase
  maxPatents : 1 ≤ config.limits.search.maxPatents
  requestsPerMinute : 1 ≤ config.limits.search.requestsPerMinute
  searchAttempts : 1 ≤ config.limits.search.maxAttempts
  maxBadRequests : 1 ≤ config.limits.search.maxBadRequests
  maxAssessed : 1 ≤ config.limits.assessment.maxAssessed
  batchSize : 1 ≤ config.limits.assessment.batchSize
  assessmentAttempts : 1 ≤ config.limits.assessment.maxAttempts
  stageAttempts : 1 ≤ config.limits.pipeline.maxStageAttempts
  pipelineBackoff : 1 ≤ config.limits.pipeline.backoffBase

theorem isPositive_iff {config : Config} :
    config.IsPositive ↔ ∀ count ∈ config.counts, count.2 ≠ 0 := by
  simp only [counts, List.forall_mem_cons, List.not_mem_nil, false_implies, implies_true, and_true,
    ← Nat.one_le_iff_ne_zero]
  constructor
  · intro positive
    exact ⟨positive.patentsTimeout, positive.reasoningTimeout, positive.searchBackoff,
      positive.pipelineBackoff, positive.maxPatents, positive.requestsPerMinute,
      positive.searchAttempts, positive.maxBadRequests, positive.maxAssessed, positive.batchSize,
      positive.assessmentAttempts, positive.stageAttempts, positive.maxTokens⟩
  · rintro ⟨patentsTimeout, reasoningTimeout, searchBackoff, pipelineBackoff, maxPatents,
      requestsPerMinute, searchAttempts, maxBadRequests, maxAssessed, batchSize,
      assessmentAttempts, stageAttempts, maxTokens⟩
    exact { patentsTimeout, reasoningTimeout, maxTokens, searchBackoff, maxPatents,
            requestsPerMinute, searchAttempts, maxBadRequests, maxAssessed, batchSize,
            assessmentAttempts, stageAttempts, pipelineBackoff }

/-! ## Checks -/

/-- What is so of a configuration that was loaded, by how it was written. -/
structure IsLoaded (written config : Config) : Prop where
  normal : config = written.normalize
  logLevel : Text.IsClean config.logLevel
  patentsKey : Text.IsClean config.patents.key
  reasoningKey : Text.IsClean config.reasoning.key
  model : Text.IsClean config.reasoning.model
  patentsBase : IsBase written.patents.base config.patents.base
  reasoningBase : IsBase written.reasoning.base config.reasoning.base
  again : config.normalize = config ↔
    ¬ HasGap written.patents.base ∧ ¬ HasGap written.reasoning.base
  temperature : IsUpToTwo config.reasoning.temperature
  positive : config.IsPositive
  rate : config.limits.search.requestsPerMinute ≤ 60000
  period : Gate.nanosPerMilli ≤ Gate.periodFor config.limits.search.requestsPerMinute
  disclosure : config.limits.pipeline.minDisclosure < config.limits.pipeline.maxDisclosure
  patentsHeaders : ∀ header ∈ config.patents.headers, ∃ text, header.2 = .string text
  reasoningHeaders : ∀ header ∈ config.reasoning.headers, ∃ text, header.2 = .string text

theorem normalize_idem_iff {written : Config} :
    written.normalize.normalize = written.normalize ↔
      ¬ HasGap written.patents.base ∧ ¬ HasGap written.reasoning.base := by
  rw [← normalizedBase_idem_iff, ← normalizedBase_idem_iff]
  constructor
  · intro same
    exact ⟨congrArg (·.patents.base) same, congrArg (·.reasoning.base) same⟩
  · rintro ⟨patents, reasoning⟩
    simp only [normalize, PatentService.normalize, ReasoningService.normalize, Text.trim_trim,
      patents, reasoning]

theorem defect?_eq_none_iff {config : Config} :
    config.defect? = none ↔ ∀ check ∈ config.checks, check.1 = false := by
  simp only [defect?, Option.map_eq_none_iff, List.find?_eq_none, Bool.not_eq_true]

/-- The checks look for all of it. -/
theorem isLoaded_iff {written : Config} :
    IsLoaded written written.normalize ↔ written.normalize.defect? = none := by
  have noZero : (∀ check ∈ written.normalize.counts.map
      (fun count => (decide (count.2 = 0), ConfigDefect.zero count.1)), check.1 = false) ↔
      written.normalize.IsPositive := by
    simp only [isPositive_iff, List.forall_mem_map, decide_eq_false_iff_not, ne_eq]
  rw [defect?_eq_none_iff, checks, List.forall_mem_append, List.forall_mem_append, noZero]
  simp only [List.forall_mem_cons, List.not_mem_nil, false_implies, implies_true, and_true,
    Bool.not_eq_false', decide_eq_false_iff_not, Nat.not_lt, Nat.not_le, allText_iff]
  constructor
  · intro loaded
    obtain ⟨finite, inRange⟩ := isUpToTwo_iff.1 loaded.temperature
    exact ⟨⟨⟨Text.isClean_trim_iff.1 loaded.logLevel, Text.isClean_trim_iff.1 loaded.patentsKey,
      Text.isClean_trim_iff.1 loaded.reasoningKey, isBase_normalizedBase_iff.1 loaded.patentsBase,
      isBase_normalizedBase_iff.1 loaded.reasoningBase, Text.isClean_trim_iff.1 loaded.model,
      finite, inRange⟩, loaded.positive⟩, loaded.rate, loaded.disclosure, loaded.patentsHeaders,
      loaded.reasoningHeaders⟩
  · rintro ⟨⟨⟨logLevel, patentsKey, reasoningKey, patentsBase, reasoningBase, model, finite,
      inRange⟩, positive⟩, rate, disclosure, patentsHeaders, reasoningHeaders⟩
    exact {
      normal := rfl
      logLevel := Text.isClean_trim_iff.2 logLevel
      patentsKey := Text.isClean_trim_iff.2 patentsKey
      reasoningKey := Text.isClean_trim_iff.2 reasoningKey
      model := Text.isClean_trim_iff.2 model
      patentsBase := isBase_normalizedBase_iff.2 patentsBase
      reasoningBase := isBase_normalizedBase_iff.2 reasoningBase
      again := normalize_idem_iff
      temperature := isUpToTwo_iff.2 ⟨finite, inRange⟩
      positive
      rate
      period := nanosPerMilli_le_periodFor rate
      disclosure
      patentsHeaders
      reasoningHeaders }

/-! ## Loading -/

def written? (file : Option String) : Option Config :=
  (file.bind Toml.read?).bind ofDocument?

theorem load_eq_ok_iff_defect? {file : Option String} {config : Config} :
    load file = .ok config ↔ ∃ written, written? file = some written ∧
      config = written.normalize ∧ written.normalize.defect? = none := by
  cases file with
  | none => simp [load, written?]
  | some text =>
    cases parsed : Toml.read? text with
    | none => simp [load, written?, parsed]
    | some document =>
      cases said : ofDocument? document with
      | none => simp [load, written?, ofDocument, parsed, said]
      | some written =>
        cases checked : written.normalize.defect? <;>
          simp [load, written?, ofDocument, parsed, said, checked, eq_comm]

/-- **What loading a file gives.** It is the normal form of the configuration in the file, if there
is one and nothing is wrong with it. In the normal form the log level, the keys, the model and the
addresses are there and without white space around them, and the numbers and headers are as they
have to be. But an address that has a gap is left with white space at its end, and it changes if it
is normalized once more. -/
theorem load_eq_ok_iff {file : Option String} {config : Config} :
    load file = .ok config ↔
      ∃ written, written? file = some written ∧ IsLoaded written config := by
  rw [load_eq_ok_iff_defect?]
  refine exists_congr fun written => and_congr_right fun _ => ?_
  constructor
  · rintro ⟨rfl, sound⟩
    exact isLoaded_iff.2 sound
  · intro loaded
    obtain rfl := loaded.normal
    exact ⟨rfl, isLoaded_iff.1 loaded⟩

/-! ### An address with a gap -/

/-- A text that begins with no byte order mark is read by lines, character by character. -/
theorem read?_ofList {cs : List Char} (unmarked : cs.head? ≠ some Toml.byteOrderMark) :
    Toml.read? (String.ofList cs) =
      (Toml.lines? (cs.length + 1) ⟨[], []⟩ cs).map fun entries =>
        .object (Toml.entriesJson entries) := by
  rw [Toml.read?, String.toList_ofList]
  cases cs with
  | nil => rfl
  | cons c cs =>
    have differs : c ≠ Toml.byteOrderMark := fun same => unmarked (by rw [same]; rfl)
    simp only [if_neg differs]

/-- A space stands before the slash at the end of the first address. -/
def gappedLines : List String :=
  ["[service]",
    "log_level = \"info\"",
    "[providers.patent_search]",
    "api_base = \"https://search.example.org /\"",
    "api_key = \"key\"",
    "timeout_ms = 30000",
    "[providers.reasoning]",
    "provider_id = \"provider\"",
    "api_base = \"https://reason.example.org\"",
    "api_key = \"key\"",
    "path = \"/v1\"",
    "model = \"model\"",
    "temperature = 0",
    "timeout_ms = 30000"]

def gappedFile : String :=
  String.ofList (gappedLines.flatMap fun line => line.toList ++ ['\n'])

/-- The space stays, and goes when the configuration is normalized once more. -/
theorem load_gapped : ∃ config, load (some gappedFile) = .ok config ∧
    config.patents.base = "https://search.example.org " ∧ config.normalize ≠ config := by
  have base : (load (some gappedFile)).toOption.map (·.patents.base) =
      some "https://search.example.org " := by
    rw [load, gappedFile, read?_ofList (by decide +kernel)]
    decide +kernel
  cases loaded : load (some gappedFile) with
  | error _ =>
    rw [loaded] at base
    cases base
  | ok config =>
    rw [loaded] at base
    have gapped : config.patents.base = "https://search.example.org " := Option.some.inj base
    refine ⟨config, rfl, gapped, fun same => ?_⟩
    have again : normalizedBase config.patents.base = config.patents.base :=
      congrArg (·.patents.base) same
    rw [gapped] at again
    exact absurd again (by decide +kernel)

end Config

end PriorArt
