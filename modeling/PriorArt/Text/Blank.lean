import PriorArt.Text.Ranges

/-!
# Blank space

What counts as blank, and the operations on text that depend on it: `trim` removes blank
characters at both ends, `clamp` trims and then cuts, `size` counts what `trim` leaves, `pieces`
cuts a text at separators, and `collapse` joins the pieces between blank space by single spaces.
-/

namespace PriorArt.Text

/-- The ranges of the characters with the property White_Space, in ascending order. -/
def blankRanges : List CodeRange :=
  [(0x9, 0xD), (0x20, 0x20), (0x85, 0x85), (0xA0, 0xA0), (0x1680, 0x1680), (0x2000, 0x200A),
   (0x2028, 0x2029), (0x202F, 0x202F), (0x205F, 0x205F), (0x3000, 0x3000)]

def isBlank (c : Char) : Bool :=
  inRanges blankRanges c

def trimLeft (cs : List Char) : List Char :=
  cs.dropWhile isBlank

def dropEndWhile (p : Char → Bool) (cs : List Char) : List Char :=
  (cs.reverse.dropWhile p).reverse

def trimList (cs : List Char) : List Char :=
  dropEndWhile isBlank (trimLeft cs)

def trim (s : String) : String :=
  String.ofList (trimList s.toList)

@[simp] theorem toList_trim (s : String) : (trim s).toList = trimList s.toList := by
  simp [trim]

@[simp] theorem trimList_nil : trimList [] = [] := rfl

/-- A text stays as it is when it does not begin with a blank character and does not end with
one. -/
theorem trimList_eq_self {cs : List Char} (first : ∀ c ∈ cs.head?, isBlank c = false)
    (last : ∀ c ∈ cs.getLast?, isBlank c = false) : trimList cs = cs := by
  have left : trimLeft cs = cs := by
    cases cs with
    | nil => rfl
    | cons c cs => simp [trimLeft, first c (by simp)]
  have right : cs.reverse.dropWhile isBlank = cs.reverse := by
    cases h : cs.reverse with
    | nil => rfl
    | cons c ds =>
      have : cs.getLast? = some c := by rw [List.getLast?_eq_head?_reverse, h]; rfl
      simp [last c (by simp [this])]
  rw [trimList, left, dropEndWhile, right, List.reverse_reverse]

theorem trimLeft_eq_append (cs : List Char) :
    trimLeft cs = trimList cs ++ ((trimLeft cs).reverse.takeWhile isBlank).reverse := by
  rw [trimList, dropEndWhile, ← List.reverse_append, List.takeWhile_append_dropWhile,
    List.reverse_reverse]

theorem isBlank_head?_trimList {cs : List Char} : ∀ c ∈ (trimList cs).head?, isBlank c = false := by
  intro c hc
  have head : (trimLeft cs).head? = some c := by
    rw [trimLeft_eq_append, List.head?_append, hc]; rfl
  have := List.head?_dropWhile_not isBlank cs
  rw [trimLeft] at head
  simpa [head] using this

theorem isBlank_getLast?_trimList {cs : List Char} :
    ∀ c ∈ (trimList cs).getLast?, isBlank c = false := by
  intro c hc
  rw [trimList, dropEndWhile, List.getLast?_reverse] at hc
  have := List.head?_dropWhile_not isBlank (trimLeft cs).reverse
  simpa [Option.mem_def.1 hc] using this

@[simp] theorem trimList_trimList (cs : List Char) : trimList (trimList cs) = trimList cs :=
  trimList_eq_self isBlank_head?_trimList isBlank_getLast?_trimList

@[simp] theorem trim_trim (s : String) : trim (trim s) = trim s := by
  simp [trim]

/-- Nothing is left of the text once it is trimmed. -/
def isBlankText (s : String) : Bool :=
  s.toList.all isBlank

/-- The first `limit` characters of the trimmed text. Blank space inside the text counts, and may
end the result. -/
def clamp (limit : Nat) (s : String) : String :=
  String.ofList ((trimList s.toList).take limit)

@[simp] theorem toList_clamp (limit : Nat) (s : String) :
    (clamp limit s).toList = (trimList s.toList).take limit := by
  simp [clamp]

theorem length_clamp_le (limit : Nat) (s : String) : (clamp limit s).length ≤ limit := by
  rw [← String.length_toList, toList_clamp]
  exact List.length_take_le limit _

/-- The number of characters of the trimmed text. -/
def size (s : String) : Nat :=
  (trimList s.toList).length

theorem size_le_length (s : String) : size s ≤ s.length := by
  simp only [size, trimList, dropEndWhile, trimLeft, List.length_reverse, ← String.length_toList]
  exact Nat.le_trans (List.dropWhile_sublist _).length_le
    (by simpa using (List.dropWhile_sublist _).length_le)

@[simp] theorem size_trim (s : String) : size (trim s) = size s := by
  unfold size
  rw [toList_trim, trimList_trimList]

theorem clamp_eq_trim {limit : Nat} {s : String} (h : size s ≤ limit) : clamp limit s = trim s := by
  rw [clamp, List.take_of_length_le h, trim]

/-- The parts of a text between its separators. There is one more part than separators, and
neighbouring separators have the empty part between them. -/
def splitAt (separates : Char → Bool) : List Char → List (List Char)
  | [] => [[]]
  | c :: cs =>
    if separates c then [] :: splitAt separates cs
    else match splitAt separates cs with
      | [] => [[c]]
      | part :: parts => (c :: part) :: parts

theorem length_splitAt (separates : Char → Bool) (cs : List Char) :
    (splitAt separates cs).length = cs.countP separates + 1 := by
  fun_induction splitAt separates cs with
  | case1 => rfl
  | case2 c cs h ih => simp [h, ih]
  | case3 c cs h parts ih => simp [parts] at ih
  | case4 c cs h part parts hp ih => simp_all

theorem separates_splitAt (separates : Char → Bool) (cs : List Char) :
    ∀ part ∈ splitAt separates cs, ∀ c ∈ part, separates c = false := by
  fun_induction splitAt separates cs with
  | case1 => simp
  | case2 c cs h ih => simpa using ih
  | case3 c cs h parts ih => simpa using h
  | case4 c cs h part parts hp ih =>
    rw [hp] at ih
    intro p hm d hd
    rcases List.mem_cons.1 hm with rfl | hm
    · rcases List.mem_cons.1 hd with rfl | hd
      · simpa using h
      · exact ih part (by simp) d hd
    · exact ih p (by simp [hm]) d hd

theorem flatten_splitAt (separates : Char → Bool) (cs : List Char) :
    (splitAt separates cs).flatten = cs.filter fun c => !separates c := by
  fun_induction splitAt separates cs with
  | case1 => rfl
  | case2 c cs h ih => simp [h, ih]
  | case3 c cs h parts ih => simp_all
  | case4 c cs h part parts hp ih => simp_all

/-- The parts between separators that are not empty. -/
def pieces (separates : Char → Bool) (s : String) : List String :=
  ((splitAt separates s.toList).filter fun part => !part.isEmpty).map String.ofList

theorem flatten_pieces (separates : Char → Bool) (s : String) :
    ((pieces separates s).map String.toList).flatten =
      s.toList.filter fun c => !separates c := by
  have chars : String.toList ∘ String.ofList = id := funext fun _ => String.toList_ofList
  rw [pieces, List.map_map, chars, List.map_id, List.flatten_filter_not_isEmpty, flatten_splitAt]

/-- Each run of blank space inside the text becomes one space, and the ends are trimmed. -/
def collapse (s : String) : String :=
  " ".intercalate (pieces isBlank s)

/-- What is put between the parts of a text does not count if it satisfies `p` itself. -/
theorem all_intercalate {p : Char → Bool} {separator : List Char}
    (h : separator.all p = true) (parts : List (List Char)) :
    (separator.intercalate parts).all p = parts.flatten.all p := by
  induction parts with
  | nil => rfl
  | cons part rest ih =>
    cases rest with
    | nil => simp [List.intercalate]
    | cons next rest =>
      have more : separator.intercalate (part :: next :: rest) =
          part ++ (separator ++ separator.intercalate (next :: rest)) := by
        simp [List.intercalate]
      rw [more, List.all_append, List.all_append, h, Bool.true_and, ih, ← List.all_append,
        ← List.flatten_cons]

theorem isBlankText_collapse (s : String) : isBlankText (collapse s) = isBlankText s := by
  have space : " ".toList.all isBlank = true := by decide
  rw [isBlankText, collapse, String.toList_intercalate, all_intercalate space, flatten_pieces,
    List.all_filter, isBlankText]
  simp

theorem collapse_eq_empty_iff {s : String} : collapse s = "" ↔ isBlankText s = true := by
  constructor
  · intro none
    rw [← isBlankText_collapse, none]
    rfl
  · intro blank
    have noParts : (splitAt isBlank s.toList).flatten = [] := by
      rw [flatten_splitAt, List.filter_eq_nil_iff]
      simpa [isBlankText] using blank
    have noPieces : pieces isBlank s = [] := by
      simpa [pieces, List.flatten_eq_nil_iff] using noParts
    rw [collapse, noPieces]
    rfl

/-- The text with the letters `a` to `z` raised and all else kept. -/
def upper (s : String) : String :=
  String.ofList (s.toList.map Char.toUpper)

end PriorArt.Text
