import PriorArt.Keyed
import PriorArt.Order

/-!
# Tallies

How often each text occurs in a list, and the rows of a frequency table. A tally has one row for
each text of the list, with its count (`Tally.mem_ofList_iff`); the counts of some of them are added
up by `Tally.sum`.
-/

namespace PriorArt

/-- Texts with the number of times each was counted, in the order of their first count. -/
abbrev Tally := List (String × Nat)

namespace Tally

def add (key : String) : Tally → Tally
  | [] => [(key, 1)]
  | (k, n) :: rest => if k = key then (k, n + 1) :: rest else (k, n) :: add key rest

def ofList (keys : List String) : Tally :=
  keys.foldl (fun tally key => tally.add key) []

def count (tally : Tally) (key : String) : Nat :=
  (tally.lookup key).getD 0

theorem count_add (tally : Tally) (key name : String) :
    (tally.add key).count name = tally.count name + if name = key then 1 else 0 := by
  fun_induction add key tally with
  | case1 => by_cases h : name = key <;> simp [count, Keyed.lookup_cons, h]
  | case2 n rest => by_cases h : name = key <;> simp [count, Keyed.lookup_cons, h]
  | case3 k n rest differs ih =>
    by_cases h : name = k
    · subst h; simp [count, differs]
    · simpa [count, Keyed.lookup_cons, h] using ih

theorem mem_keys_add {tally : Tally} {key name : String}
    (h : name ∈ (tally.add key).map (·.1)) : name = key ∨ name ∈ tally.map (·.1) := by
  fun_induction add key tally with
  | case1 => simpa using h
  | case2 n rest => exact .inr h
  | case3 k n rest differs ih =>
    rcases List.mem_cons.1 h with rfl | inRest
    · exact .inr List.mem_cons_self
    · exact (ih inRest).imp_right (List.mem_cons_of_mem k)

/-- What holds of the empty tally and stays so with one more occurrence holds of the tally of a
list. -/
theorem ofList_induction {motive : List String → Tally → Prop} (nil : motive [] [])
    (append : ∀ keys tally key, motive keys tally → motive (keys ++ [key]) (tally.add key))
    (keys : List String) : motive keys (ofList keys) := by
  have fold : ∀ (rest before : List String) (tally : Tally), motive before tally →
      motive (before ++ rest) (rest.foldl (fun tally key => tally.add key) tally) := by
    intro rest
    induction rest with
    | nil =>
      intro before tally holds
      rw [List.append_nil]
      exact holds
    | cons key rest ih =>
      intro before tally holds
      rw [List.append_cons]
      exact ih (before ++ [key]) (tally.add key) (append before tally key holds)
  exact fold keys [] [] nil

theorem count_ofList (keys : List String) (name : String) :
    (ofList keys).count name = keys.count name := by
  apply ofList_induction (motive := fun keys tally => tally.count name = keys.count name)
  case nil => rfl
  case append =>
    intro keys tally key counted
    rw [count_add, counted, List.count_append, List.count_singleton]
    by_cases same : name = key
    · simp [same]
    · simp [same, Ne.symm same]

theorem mem_of_mem_ofList {keys : List String} {row : String × Nat} (h : row ∈ ofList keys) :
    row.1 ∈ keys := by
  have subset : (ofList keys).map (·.1) ⊆ keys := by
    apply ofList_induction (motive := fun keys tally => tally.map (·.1) ⊆ keys)
    case nil => exact List.nil_subset _
    case append =>
      intro keys tally key subset name member
      rcases mem_keys_add member with rfl | before
      · exact List.mem_append_right _ List.mem_cons_self
      · exact List.mem_append_left _ (subset before)
  exact subset (List.mem_map_of_mem h)

theorem nodup_keys_add {key : String} {tally : Tally} (distinct : (tally.map (·.1)).Nodup) :
    ((tally.add key).map (·.1)).Nodup := by
  fun_induction add key tally with
  | case1 => simp
  | case2 n rest => exact distinct
  | case3 k n rest differs ih =>
    obtain ⟨new, distinct⟩ := List.nodup_cons.1 distinct
    refine List.nodup_cons.2 ⟨?_, ih distinct⟩
    intro member
    rcases mem_keys_add member with same | inRest
    · exact differs same
    · exact new inRest

theorem nodup_keys_ofList (keys : List String) : ((ofList keys).map (·.1)).Nodup := by
  apply ofList_induction (motive := fun _ tally => (tally.map (·.1)).Nodup)
  case nil => exact List.nodup_nil
  case append => exact fun _ _ _ distinct => nodup_keys_add distinct

theorem mem_ofList_iff {keys : List String} {key : String} {n : Nat} :
    (key, n) ∈ ofList keys ↔ 0 < n ∧ keys.count key = n := by
  rw [← count_ofList keys key]
  constructor
  · intro member
    have found := Keyed.lookup_of_mem (nodup_keys_ofList keys) member
    have counted : count (ofList keys) key = n := by
      rw [count, found, Option.getD_some]
    have positive : 0 < keys.count key := List.count_pos_iff.2 (mem_of_mem_ofList member)
    rw [← count_ofList, counted] at positive
    exact ⟨positive, counted⟩
  · rintro ⟨positive, counted⟩
    apply Keyed.mem_of_lookup
    unfold count at counted
    cases found : (ofList keys).lookup key with
    | none =>
      rw [found, Option.getD_none] at counted
      omega
    | some m =>
      rw [found, Option.getD_some] at counted
      rw [counted]

theorem nodup_ofList (keys : List String) : (ofList keys).Nodup :=
  List.Pairwise.of_map (·.1) (fun _ _ differ same => differ (same ▸ rfl)) (nodup_keys_ofList keys)

theorem perm_ofList {keys others : List String} (same : keys.Perm others) :
    (ofList keys).Perm (ofList others) := by
  rw [List.perm_ext_iff_of_nodup (nodup_ofList keys) (nodup_ofList others)]
  rintro ⟨key, n⟩
  rw [mem_ofList_iff, mem_ofList_iff, same.count_eq]

/-- The counts of the texts that satisfy `p`, added up. -/
def sum (p : String → Bool) : Tally → Nat
  | [] => 0
  | (key, n) :: rest => (if p key then n else 0) + sum p rest

theorem sum_add (p : String → Bool) (key : String) (tally : Tally) :
    (tally.add key).sum p = tally.sum p + if p key then 1 else 0 := by
  fun_induction add key tally with
  | case1 => simp [sum]
  | case2 n rest =>
    by_cases h : p key = true
    · simp only [sum, h, if_true]
      omega
    · simp [sum, h]
  | case3 k n rest differs ih =>
    rw [sum, ih, sum]
    omega

/-- Added up, the counts are how many of the list satisfy `p`. -/
theorem sum_ofList (p : String → Bool) (keys : List String) :
    (ofList keys).sum p = keys.countP p := by
  apply ofList_induction (motive := fun keys tally => tally.sum p = keys.countP p)
  case nil => rfl
  case append =>
    intro keys tally key added
    rw [sum_add, added, List.countP_append, List.countP_singleton]

/-- More frequent texts first, texts of one frequency in ascending order. -/
def byFrequency : String × Nat → String × Nat → Ordering :=
  compareLex (descendingOn (·.2)) (compareOn (·.1))

instance : Std.TransCmp byFrequency :=
  inferInstanceAs (Std.TransCmp (compareLex _ _))

theorem eq_of_byFrequency {a b : String × Nat} (equal : byFrequency a b = .eq) : a = b := by
  unfold byFrequency compareLex at equal
  obtain ⟨asMany, sameText⟩ := Ordering.then_eq_eq.1 equal
  exact Prod.ext (Std.compare_eq_iff_eq.1 sameText) (Std.compare_eq_iff_eq.1 asMany).symm

def top (limit : Nat) (tally : Tally) : List (String × Nat) :=
  (sortBy byFrequency tally).take limit

theorem top_eq_of_perm {tally other : Tally} (limit : Nat) (same : tally.Perm other) :
    tally.top limit = other.top limit := by
  rw [top, top, sortBy_eq_of_perm same fun _ _ _ _ => eq_of_byFrequency]

theorem top_eq_take {rows : Tally} (limit : Nat)
    (sorted : rows.Pairwise fun a b => (byFrequency a b).isLE = true) :
    rows.top limit = rows.take limit := by
  rw [top, sortBy_eq_self sorted]

end Tally

end PriorArt
