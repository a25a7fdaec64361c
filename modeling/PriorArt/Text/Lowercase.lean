import PriorArt.Text.Casing

/-!
# Lower case

The lower-case form of a text under the full Unicode rules: every character by itself, except
that a sigma that ends a word takes its final form, and that the dotted capital I becomes an `i`
followed by a dot above.
-/

namespace PriorArt.Text

/-- The lower-case form of a character taken by itself. -/
def lowerChar (c : Char) : List Char :=
  if c.toNat < 128 then [c.toLower]
  else if c = 'İ' then ['i', '\u0307']
  else match lowerRuns.find? (·.covers c.toNat) with
    | some run => [Char.ofNat (c.toNat + run.offset).toNat]
    | none => [c]

theorem lowerChar_ne_nil (c : Char) : lowerChar c ≠ [] := by
  unfold lowerChar
  split
  · exact List.cons_ne_nil _ _
  · split
    · exact List.cons_ne_nil _ _
    · split <;> exact List.cons_ne_nil _ _

/-- The nearest character that is not passed over has a case. -/
def nearestIsCased (cs : List Char) : Bool :=
  match cs.dropWhile isCaseIgnorable with
  | [] => false
  | c :: _ => isCased c

/-- The lower-case form of the characters `cs`, where `before` holds the characters in front of
them, nearest first. A sigma is final if a letter comes before it and none after it. -/
def lowerFrom (before : List Char) : List Char → List Char
  | [] => []
  | c :: cs =>
    (if c = 'Σ' then
      if nearestIsCased before && !nearestIsCased cs then ['ς'] else ['σ']
    else lowerChar c) ++ lowerFrom (c :: before) cs

def lower (s : String) : String :=
  String.ofList (lowerFrom [] s.toList)

theorem lower_eq_empty_iff {s : String} : lower s = "" ↔ s = "" := by
  rw [lower, String.ofList_eq_empty_iff, ← String.toList_eq_nil_iff]
  cases s.toList with
  | nil => simp [lowerFrom]
  | cons c cs =>
    rw [lowerFrom, List.append_eq_nil_iff]
    refine iff_of_false (fun none => ?_) (List.cons_ne_nil _ _)
    have none := none.1
    split at none
    · split at none <;> cases none
    · exact lowerChar_ne_nil c none

end PriorArt.Text
