import Mathlib.Data.List.TakeWhile
import PriorArt.Text.Blank

/-!
# What is left of a text without its blank space

1. `isBlankText_iff`, `trimList_between`: trimming takes the blank characters at the two ends, and
   what it leaves reaches from the first character that is not blank to the last one
   (`le_length_trimList_iff`).
2. `clamp_clamp`: a text that is cut may be trimmed once more.
3. `pieces_trim`, `pieces_intercalate`: where blank space separates, trimming a text leaves its
   pieces as they are, and texts that are joined by spaces have the pieces of each one.
4. `collapse_collapse`: blank space is collapsed once and for all.
-/

namespace PriorArt.Text

/-! ## Trimming -/

theorem trimList_eq_nil {cs : List Char} : trimList cs = [] ↔ cs.all isBlank = true := by
  rw [List.all_eq_true, ← List.dropWhile_eq_nil_iff, trimList, dropEndWhile,
    List.reverse_eq_nil_iff, List.dropWhile_eq_nil_iff, trimLeft]
  constructor
  · intro all
    cases rest : cs.dropWhile isBlank with
    | nil => rfl
    | cons c ds =>
      have notBlank : ¬ isBlank c = true := by
        simpa [rest] using List.head?_dropWhile_not isBlank cs
      rw [rest] at all
      exact absurd (all c (by simp)) notBlank
  · intro none
    simp [none]

theorem isBlankText_iff {s : String} : isBlankText s = true ↔ trim s = "" := by
  rw [isBlankText, ← trimList_eq_nil, trim, ← String.toList_inj]
  simp

@[simp] theorem isBlankText_trim (s : String) : isBlankText (trim s) = isBlankText s := by
  rw [Bool.eq_iff_iff, isBlankText_iff, isBlankText_iff, trim_trim]

/-- A text is what trimming leaves of it, with blank characters before and after it. -/
theorem exists_eq_append_trimList (cs : List Char) :
    ∃ before after, cs = before ++ trimList cs ++ after ∧
      (∀ c ∈ before, isBlank c = true) ∧ ∀ c ∈ after, isBlank c = true := by
  refine ⟨cs.takeWhile isBlank, ((trimLeft cs).reverse.takeWhile isBlank).reverse, ?_, ?_, ?_⟩
  · rw [List.append_assoc, ← trimLeft_eq_append, trimLeft, List.takeWhile_append_dropWhile]
  · intro c member
    exact List.all_eq_true.1 (List.all_takeWhile ..) c member
  · intro c member
    exact List.all_eq_true.1 (List.all_takeWhile ..) c (List.mem_reverse.1 member)

theorem dropEndWhile_append {p : Char → Bool} {after : List Char}
    (all : ∀ c ∈ after, p c = true) (cs : List Char) :
    dropEndWhile p (cs ++ after) = dropEndWhile p cs := by
  rw [dropEndWhile, List.reverse_append, List.dropWhile_append_of_pos, dropEndWhile]
  exact fun c member => all c (List.mem_reverse.1 member)

theorem trimList_between {before after : List Char} (blankBefore : ∀ c ∈ before, isBlank c = true)
    (blankAfter : ∀ c ∈ after, isBlank c = true) (cs : List Char) :
    trimList (before ++ cs ++ after) = trimList cs := by
  rw [trimList, trimLeft, List.append_assoc, List.dropWhile_append_of_pos blankBefore,
    List.dropWhile_append]
  split
  · next all =>
    have none : cs.dropWhile isBlank = [] := List.isEmpty_iff.1 all
    have noneAfter : after.dropWhile isBlank = [] :=
      List.dropWhile_eq_nil_iff.2 blankAfter
    rw [trimList, trimLeft, none, noneAfter]
  · rw [dropEndWhile_append blankAfter, trimList, trimLeft]

/-- There is a character at a place of the text that is not blank. -/
def IsWritten (cs : List Char) (place : Nat) : Prop :=
  ∃ c, cs[place]? = some c ∧ isBlank c = false

theorem isWritten_take {cs : List Char} {limit place : Nat} :
    IsWritten (cs.take limit) place ↔ place < limit ∧ IsWritten cs place := by
  unfold IsWritten
  rw [List.getElem?_take]
  by_cases inside : place < limit
  · simp [inside]
  · simp [inside]

theorem isWritten_ends {before rest after : List Char} (some : rest ≠ [])
    (first : ∀ c ∈ rest.head?, isBlank c = false) (last : ∀ c ∈ rest.getLast?, isBlank c = false) :
    IsWritten (before ++ rest ++ after) before.length ∧
      IsWritten (before ++ rest ++ after) (before.length + rest.length - 1) := by
  have nonempty : 0 < rest.length := List.length_pos_iff.2 some
  constructor
  · refine ⟨rest[0], ?_, first _ ?_⟩
    · rw [List.append_assoc, List.getElem?_append_right (Nat.le_refl _), Nat.sub_self,
        List.getElem?_append_left nonempty, List.getElem?_eq_getElem nonempty]
    · rw [List.head?_eq_getElem?, List.getElem?_eq_getElem nonempty]
      rfl
  · have inside : rest.length - 1 < rest.length := by omega
    refine ⟨rest[rest.length - 1], ?_, last _ ?_⟩
    · rw [List.append_assoc, List.getElem?_append_right (by omega),
        List.getElem?_append_left (by omega), List.getElem?_eq_getElem (by omega)]
      congr 2
      omega
    · rw [List.getLast?_eq_getElem?, List.getElem?_eq_getElem inside]
      rfl

theorem between_of_isWritten {before rest after : List Char} {place : Nat}
    (blankBefore : ∀ c ∈ before, isBlank c = true) (blankAfter : ∀ c ∈ after, isBlank c = true)
    (written : IsWritten (before ++ rest ++ after) place) :
    before.length ≤ place ∧ place < before.length + rest.length := by
  obtain ⟨c, found, notBlank⟩ := written
  constructor
  · refine Nat.le_of_not_lt fun early => ?_
    rw [List.append_assoc, List.getElem?_append_left (by omega)] at found
    rw [blankBefore c (List.mem_of_getElem? found)] at notBlank
    cases notBlank
  · refine Nat.lt_of_not_le fun late => ?_
    rw [List.getElem?_append_right (by rw [List.length_append]; omega)] at found
    rw [blankAfter c (List.mem_of_getElem? found)] at notBlank
    cases notBlank

/-- A text has so many characters once it is trimmed exactly if two that are not blank are so far
apart. -/
theorem le_length_trimList_iff {cs : List Char} {n : Nat} :
    n ≤ (trimList cs).length ↔ n = 0 ∨ ∃ first last, IsWritten cs first ∧ IsWritten cs last ∧
      first ≤ last ∧ n ≤ last + 1 - first := by
  obtain ⟨before, after, split, blankBefore, blankAfter⟩ := exists_eq_append_trimList cs
  constructor
  · intro enough
    by_cases none : trimList cs = []
    · rw [none] at enough
      exact .inl (Nat.le_zero.1 enough)
    · have nonempty : 0 < (trimList cs).length := List.length_pos_iff.2 none
      obtain ⟨first, last⟩ := @isWritten_ends before (trimList cs) after none
        isBlank_head?_trimList isBlank_getLast?_trimList
      rw [← split] at first last
      refine .inr ⟨_, _, first, last, ?_, ?_⟩
      · omega
      · omega
  · rintro (rfl | ⟨first, last, writtenFirst, writtenLast, inOrder, enough⟩)
    · exact Nat.zero_le _
    · rw [split] at writtenFirst writtenLast
      have starts := between_of_isWritten blankBefore blankAfter writtenFirst
      have ends := between_of_isWritten blankBefore blankAfter writtenLast
      omega

/-! ## Cutting -/

/-- Cutting a text again takes the blank characters off that the cut left at its end, and nothing
else. -/
theorem clamp_clamp (limit : Nat) (s : String) :
    clamp limit (clamp limit s) = trim (clamp limit s) :=
  clamp_eq_trim (Nat.le_trans (size_le_length _) (length_clamp_le limit s))

example : clamp 2 "a b" = "a " ∧ clamp 2 (clamp 2 "a b") = "a" := by decide

/-- Of a text that is cut nothing is left only if it is blank, as long as one character may stay. -/
theorem clamp_eq_empty_iff {limit : Nat} (positive : 0 < limit) {s : String} :
    clamp limit s = "" ↔ isBlankText s = true := by
  rw [clamp, String.ofList_eq_empty_iff, List.take_eq_nil_iff, isBlankText, ← trimList_eq_nil]
  exact or_iff_right (Nat.ne_of_gt positive)

theorem isBlankText_clamp {limit : Nat} (positive : 0 < limit) (s : String) :
    isBlankText (clamp limit s) = isBlankText s := by
  rw [Bool.eq_iff_iff, ← clamp_eq_empty_iff positive (s := s)]
  constructor
  · intro blank
    rw [isBlankText, toList_clamp, List.all_eq_true] at blank
    rw [clamp, String.ofList_eq_empty_iff, ← List.head?_eq_none_iff,
      Option.eq_none_iff_forall_not_mem]
    -- the character that a trimmed text begins with is not blank
    intro c first
    have notBlank : isBlank c = false := by
      rw [List.head?_take, if_neg (Nat.ne_of_gt positive)] at first
      exact isBlank_head?_trimList c first
    rw [blank c (List.mem_of_mem_head? first)] at notBlank
    cases notBlank
  · intro none
    rw [none]
    rfl

/-! ## Pieces -/

/-- The parts are those into which the library splits a list. -/
theorem splitAt_eq_splitOnP (separates : Char → Bool) (cs : List Char) :
    splitAt separates cs = cs.splitOnP separates := by
  fun_induction splitAt separates cs with
  | case1 => rfl
  | case2 c cs h ih => rw [List.splitOnP_cons_eq_if_modifyHead, if_pos h, ih]
  | case3 c cs h none ih =>
    rw [none] at ih
    exact absurd ih (Ne.symm (List.splitOnP_ne_nil separates cs))
  | case4 c cs h part parts hp ih =>
    rw [List.splitOnP_cons_eq_if_modifyHead, if_neg h, ← ih, hp, List.modifyHead_cons]

theorem splitAt_append_cons {separates : Char → Bool} {c : Char} (separator : separates c = true)
    (cs rest : List Char) :
    splitAt separates (cs ++ c :: rest) = splitAt separates cs ++ splitAt separates rest := by
  simp only [splitAt_eq_splitOnP, List.splitOnP_append_cons cs rest separator]

theorem splitAt_eq_singleton {separates : Char → Bool} {part : List Char}
    (held : ∀ d ∈ part, separates d = false) : splitAt separates part = [part] := by
  rw [splitAt_eq_splitOnP, List.splitOnP_eq_singleton held]

/-- Parts without separators are found again when they are put together by one. -/
theorem splitAt_intercalate {separates : Char → Bool} {c : Char} (separator : separates c = true)
    {parts : List (List Char)} (some : parts ≠ [])
    (held : ∀ part ∈ parts, ∀ d ∈ part, separates d = false) :
    splitAt separates ([c].intercalate parts) = parts := by
  induction parts with
  | nil => exact absurd rfl some
  | cons part rest ih =>
    have first := held part List.mem_cons_self
    cases rest with
    | nil => simpa [List.intercalate] using splitAt_eq_singleton first
    | cons next rest =>
      have more : [c].intercalate (part :: next :: rest) =
          part ++ c :: [c].intercalate (next :: rest) := by
        simp [List.intercalate]
      have others := ih (List.cons_ne_nil _ _) fun p member =>
        held p (List.mem_cons_of_mem part member)
      rw [more, splitAt_append_cons separator, splitAt_eq_singleton first, others,
        List.singleton_append]

theorem pieces_append_cons {separates : Char → Bool} {c : Char} (separator : separates c = true)
    (cs rest : List Char) :
    pieces separates (.ofList (cs ++ c :: rest)) =
      pieces separates (.ofList cs) ++ pieces separates (.ofList rest) := by
  simp only [pieces, String.toList_ofList, splitAt_append_cons separator, List.filter_append,
    List.map_append]

theorem pieces_eq_nil {separates : Char → Bool} {cs : List Char}
    (all : ∀ c ∈ cs, separates c = true) : pieces separates (.ofList cs) = [] := by
  induction cs with
  | nil => rfl
  | cons c cs ih =>
    obtain ⟨first, others⟩ := List.forall_mem_cons.1 all
    have apart := pieces_append_cons first [] cs
    rwa [ih others, List.append_nil] at apart

theorem pieces_between {separates : Char → Bool} {before after : List Char}
    (atStart : ∀ c ∈ before, separates c = true) (atEnd : ∀ c ∈ after, separates c = true)
    (cs : List Char) :
    pieces separates (.ofList (before ++ cs ++ after)) = pieces separates (.ofList cs) := by
  induction before with
  | nil =>
    rw [List.nil_append]
    cases after with
    | nil => rw [List.append_nil]
    | cons c after =>
      obtain ⟨first, others⟩ := List.forall_mem_cons.1 atEnd
      rw [pieces_append_cons first, pieces_eq_nil others, List.append_nil]
  | cons c before ih =>
    obtain ⟨first, others⟩ := List.forall_mem_cons.1 atStart
    have apart := pieces_append_cons first [] (before ++ cs ++ after)
    rwa [ih others] at apart

theorem pieces_trim {separates : Char → Bool} (blank : ∀ c, isBlank c = true → separates c = true)
    (s : String) : pieces separates (trim s) = pieces separates s := by
  obtain ⟨before, after, split, blankBefore, blankAfter⟩ := exists_eq_append_trimList s.toList
  have ends := pieces_between (fun c member => blank c (blankBefore c member))
    (fun c member => blank c (blankAfter c member)) (trimList s.toList)
  rw [← split, String.ofList_toList] at ends
  exact ends.symm

theorem pieces_intercalate {separates : Char → Bool} (space : separates ' ' = true)
    (texts : List String) :
    pieces separates (" ".intercalate texts) = texts.flatMap (pieces separates) := by
  induction texts with
  | nil => rfl
  | cons text rest ih =>
    cases rest with
    | nil => simp
    | cons next rest =>
      have form (last : String) :
          text ++ " " ++ last = .ofList (text.toList ++ ' ' :: last.toList) := by
        simp [← String.toList_inj]
      rw [List.flatMap_cons, ← ih, String.intercalate_cons_cons, form, pieces_append_cons space,
        String.ofList_toList, String.ofList_toList]

theorem pieces_collapse (s : String) : pieces isBlank (collapse s) = pieces isBlank s := by
  have space : isBlank ' ' = true := by decide
  have chars : String.toList ∘ String.ofList = id := funext fun _ => String.toList_ofList
  have form : (collapse s).toList =
      [' '].intercalate ((splitAt isBlank s.toList).filter fun part => !part.isEmpty) := by
    rw [collapse, String.toList_intercalate, pieces, List.map_map, chars, List.map_id]
    rfl
  unfold pieces
  rw [form]
  by_cases none : (splitAt isBlank s.toList).filter (fun part => !part.isEmpty) = []
  · rw [none]
    rfl
  · have held : ∀ part ∈ (splitAt isBlank s.toList).filter fun part => !part.isEmpty,
        ∀ c ∈ part, isBlank c = false := by
      intro part member
      exact separates_splitAt isBlank s.toList part (List.mem_filter.1 member).1
    rw [splitAt_intercalate space none held, List.filter_filter]
    simp only [Bool.and_self]

@[simp] theorem collapse_collapse (s : String) : collapse (collapse s) = collapse s := by
  rw [collapse, pieces_collapse, ← collapse]

end PriorArt.Text
