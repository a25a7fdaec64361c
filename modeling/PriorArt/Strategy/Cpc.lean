import PriorArt.Text.Blank

/-!
# Subclasses of the Cooperative Patent Classification

A subclass code is a section letter, two digits and a letter, such as `H01M`.
-/

namespace PriorArt

namespace Cpc

def isSection (c : Char) : Bool :=
  ('A' ≤ c && c ≤ 'H') || c = 'Y'

def isDigit (c : Char) : Bool :=
  '0' ≤ c && c ≤ '9'

def isLetter (c : Char) : Bool :=
  'A' ≤ c && c ≤ 'Z'

/-- The code has the form of a subclass and of nothing narrower or wider. -/
def isSubclass (code : String) : Bool :=
  match code.toList with
  | [s, d, e, l] => isSection s && isDigit d && isDigit e && isLetter l
  | _ => false

/-- Puts a code at the end of a list that does not hold it yet. -/
def keep (kept : List String) (raw : String) : List String :=
  let code := Text.upper (Text.trim raw)
  if isSubclass code && !kept.contains code then kept ++ [code] else kept

theorem nodup_keep {kept : List String} (h : kept.Nodup) (raw : String) :
    (keep kept raw).Nodup := by
  simp only [keep]
  split
  · rename_i new
    have absent : Text.upper (Text.trim raw) ∉ kept := by simp_all
    refine List.nodup_append.2 ⟨h, by simp, fun code hc new hn same => ?_⟩
    exact absent (List.mem_singleton.1 hn ▸ same ▸ hc)
  · exact h

theorem isSubclass_of_mem_keep {kept : List String} (h : ∀ code ∈ kept, isSubclass code = true)
    (raw : String) : ∀ code ∈ keep kept raw, isSubclass code = true := by
  simp only [keep]
  split
  · rename_i new
    simp only [Bool.and_eq_true] at new
    exact List.forall_mem_append.2 ⟨h, by simpa using new.1⟩
  · exact h

/-- The subclass codes among the given ones, raised to upper case, each once and in their order. -/
def normalize (codes : List String) : List String :=
  codes.foldl keep []

theorem nodup_normalize (codes : List String) : (normalize codes).Nodup := by
  have fold (kept : List String) (h : kept.Nodup) : (codes.foldl keep kept).Nodup := by
    induction codes generalizing kept with
    | nil => exact h
    | cons raw rest ih =>
      rw [List.foldl_cons]
      exact ih (keep kept raw) (nodup_keep h raw)
  exact fold [] List.nodup_nil

theorem isSubclass_of_mem_normalize (codes : List String) :
    ∀ code ∈ normalize codes, isSubclass code = true := by
  have fold (kept : List String) (h : ∀ code ∈ kept, isSubclass code = true) :
      ∀ code ∈ codes.foldl keep kept, isSubclass code = true := by
    induction codes generalizing kept with
    | nil => exact h
    | cons raw rest ih =>
      rw [List.foldl_cons]
      exact ih (keep kept raw) (isSubclass_of_mem_keep h raw)
  exact fold [] (by simp)

theorem range_of_isSubclass {code : String} (h : isSubclass code = true) :
    ∀ c ∈ code.toList, 0x30 ≤ c.toNat ∧ c.toNat ≤ 0x5A := by
  have range {c : Char} (h : (isSection c || isDigit c || isLetter c) = true) :
      0x30 ≤ c.toNat ∧ c.toNat ≤ 0x5A := by
    simp only [isSection, isDigit, isLetter, Bool.or_eq_true, Bool.and_eq_true, decide_eq_true_eq,
      Char.le_def, UInt32.le_iff_toNat_le] at h
    rcases h with ((⟨low, high⟩ | rfl) | ⟨low, high⟩) | ⟨low, high⟩
    · exact ⟨Nat.le_trans (by decide) low, Nat.le_trans high (by decide)⟩
    · decide
    · exact ⟨low, Nat.le_trans high (by decide)⟩
    · exact ⟨Nat.le_trans (by decide) low, high⟩
  unfold isSubclass at h
  split at h
  case h_1 s d e l chars =>
    simp only [Bool.and_eq_true] at h
    obtain ⟨⟨⟨letter, first⟩, second⟩, last⟩ := h
    rw [chars]
    simp [range, letter, first, second, last]
  case h_2 => cases h

theorem upper_trim_of_isSubclass {code : String} (h : isSubclass code = true) :
    Text.upper (Text.trim code) = code := by
  have range := range_of_isSubclass h
  have solid : ∀ c ∈ code.toList, Text.isBlank c = false := by
    intro c member
    obtain ⟨low, high⟩ := range c member
    simp [Text.isBlank, Text.inRanges, Text.blankRanges]
    omega
  have capital : ∀ c ∈ code.toList, c.toUpper = c := by
    intro c member
    obtain ⟨-, high⟩ := range c member
    unfold Char.toUpper
    rw [dif_neg]
    simp [UInt32.le_iff_toNat_le]
    omega
  have trimmed : Text.trimList code.toList = code.toList :=
    Text.trimList_eq_self (fun c first => solid c (List.mem_of_mem_head? first))
      fun c last => solid c (List.mem_of_getLast? last)
  rw [Text.upper, Text.toList_trim, trimmed, List.map_congr_left capital, List.map_id',
    String.ofList_toList]

theorem normalize_eq_self {codes : List String} (distinct : codes.Nodup)
    (subclasses : ∀ code ∈ codes, isSubclass code = true) : normalize codes = codes := by
  have fold (kept : List String) (distinct : (kept ++ codes).Nodup) :
      codes.foldl keep kept = kept ++ codes := by
    induction codes generalizing kept with
    | nil => simp
    | cons code rest ih =>
      obtain ⟨isCode, ofRest⟩ := List.forall_mem_cons.1 subclasses
      obtain ⟨-, both, apart⟩ := List.nodup_append.1 distinct
      have new : code ∉ kept := fun member => apart code member code List.mem_cons_self rfl
      have added : keep kept code = kept ++ [code] := by
        simp [keep, upper_trim_of_isSubclass isCode, isCode, new]
      rw [List.append_cons] at distinct
      rw [List.foldl_cons, added, ih (List.nodup_cons.1 both).2 ofRest _ distinct,
        List.append_assoc, List.singleton_append]
  exact fold [] distinct

@[simp] theorem normalize_normalize (codes : List String) :
    normalize (normalize codes) = normalize codes :=
  normalize_eq_self (nodup_normalize codes) (isSubclass_of_mem_normalize codes)

end Cpc

end PriorArt
