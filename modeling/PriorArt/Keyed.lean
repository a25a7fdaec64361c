/-!
# Keyed lists

A list of values by text keys, in ascending order of the keys, each key once.
-/

namespace PriorArt

namespace Keyed

theorem lookup_cons {α : Type} (key name : String) (value : α) (entries : List (String × α)) :
    ((key, value) :: entries).lookup name =
      if name = key then some value else entries.lookup name := by
  by_cases h : name = key
  · simp [h]
  · simp [List.lookup_cons, h, beq_eq_false_iff_ne.2 h]

theorem mem_of_lookup {α : Type} {key : String} {value : α} {entries : List (String × α)}
    (h : entries.lookup key = some value) : (key, value) ∈ entries := by
  obtain ⟨before, after, rfl, -⟩ := List.lookup_eq_some_iff.1 h
  exact List.mem_append_right _ List.mem_cons_self

theorem lookup_of_mem {α : Type} {key : String} {value : α} {entries : List (String × α)}
    (distinct : (entries.map (·.1)).Nodup) (h : (key, value) ∈ entries) :
    entries.lookup key = some value := by
  induction entries with
  | nil => cases h
  | cons first rest ih =>
    obtain ⟨new, distinct⟩ := List.nodup_cons.1 distinct
    rw [lookup_cons]
    rcases List.mem_cons.1 h with rfl | inRest
    · rw [if_pos rfl]
    · have inKeys : key ∈ rest.map (·.1) := List.mem_map_of_mem inRest
      have differs : key ≠ first.1 := by
        rintro rfl
        exact new inKeys
      rw [if_neg differs]
      exact ih distinct inRest

theorem lookup_eq_of_perm {α : Type} {entries others : List (String × α)}
    (perm : entries.Perm others) (distinct : (entries.map (·.1)).Nodup) (key : String) :
    entries.lookup key = others.lookup key := by
  have alsoDistinct : (others.map (·.1)).Nodup := (perm.map _).nodup_iff.1 distinct
  ext value
  constructor
  · exact fun found => lookup_of_mem alsoDistinct (perm.mem_iff.1 (mem_of_lookup found))
  · exact fun found => lookup_of_mem distinct (perm.mem_iff.2 (mem_of_lookup found))

def insert {α : Type} (key : String) (value : α) : List (String × α) → List (String × α)
  | [] => [(key, value)]
  | (k, old) :: rest =>
    if key < k then (key, value) :: (k, old) :: rest
    else if key = k then (key, value) :: rest
    else (k, old) :: insert key value rest

theorem lookup_insert {α : Type} (key name : String) (value : α) (entries : List (String × α)) :
    (insert key value entries).lookup name =
      if name = key then some value else entries.lookup name := by
  fun_induction insert key value entries with
  | case1 => by_cases h : name = key <;> simp [lookup_cons, h]
  | case2 k old rest less => by_cases h : name = key <;> simp [lookup_cons, h]
  | case3 old rest less => by_cases h : name = key <;> simp [lookup_cons, h]
  | case4 k old rest less differs ih =>
    by_cases h : name = k
    · subst h; simp [Ne.symm differs]
    · simp [lookup_cons, h, ih]

def Ascending {α : Type} (entries : List (String × α)) : Prop :=
  entries.Pairwise fun a b => a.1 < b.1

theorem mem_insert {α : Type} {key : String} {value : α} {entries : List (String × α)}
    {entry : String × α} (h : entry ∈ insert key value entries) :
    entry = (key, value) ∨ entry ∈ entries := by
  fun_induction insert key value entries with
  | case1 => simpa using h
  | case2 k old rest less => simpa using h
  | case3 old rest less => grind
  | case4 k old rest less differs ih => grind

theorem ascending_insert {α : Type} (key : String) (value : α) {entries : List (String × α)}
    (h : Ascending entries) : Ascending (insert key value entries) := by
  fun_induction insert key value entries with
  | case1 => simp [Ascending]
  | case2 k old rest less =>
    refine List.Pairwise.cons (fun b hb => ?_) h
    rcases List.mem_cons.1 hb with rfl | hb
    · exact less
    · exact String.lt_trans less (List.rel_of_pairwise_cons h hb)
  | case3 old rest less =>
    exact List.Pairwise.cons (fun b hb => List.rel_of_pairwise_cons h hb) (List.Pairwise.of_cons h)
  | case4 k old rest less differs ih =>
    have greater : k < key := by
      rcases Decidable.em (k < key) with below | above
      · exact below
      · exact absurd (String.le_antisymm above less) differs
    refine List.Pairwise.cons (fun b hb => ?_) (ih (List.Pairwise.of_cons h))
    rcases mem_insert hb with rfl | hb
    · exact greater
    · exact List.rel_of_pairwise_cons h hb

/-- The list of the given entries, where the last one with a key counts. -/
def ofList {α : Type} (entries : List (String × α)) : List (String × α) :=
  entries.foldl (fun sorted entry => insert entry.1 entry.2 sorted) []

theorem ascending_ofList {α : Type} (entries : List (String × α)) : Ascending (ofList entries) := by
  have keep (sorted : List (String × α)) (h : Ascending sorted) : Ascending
      (entries.foldl (fun sorted entry => insert entry.1 entry.2 sorted) sorted) := by
    induction entries generalizing sorted with
    | nil => exact h
    | cons entry rest ih => exact ih _ (ascending_insert _ _ h)
  exact keep [] List.Pairwise.nil

theorem mem_of_mem_ofList {α : Type} {entries : List (String × α)} {entry : String × α}
    (h : entry ∈ ofList entries) : entry ∈ entries := by
  have fold : ∀ entries sorted : List (String × α),
      entry ∈ entries.foldl (fun sorted entry => insert entry.1 entry.2 sorted) sorted →
        entry ∈ sorted ∨ entry ∈ entries := by
    intro entries
    induction entries with
    | nil => exact fun _ => Or.inl
    | cons first rest ih =>
      intro sorted member
      rcases ih _ member with member | member
      · rcases mem_insert member with rfl | member
        · exact Or.inr List.mem_cons_self
        · exact Or.inl member
      · exact Or.inr (List.mem_cons_of_mem first member)
  simpa using fold entries [] h

/-- A key beyond all others goes to the end. -/
theorem insert_eq_append {α : Type} {key : String} {value : α} {entries : List (String × α)}
    (h : ∀ entry ∈ entries, entry.1 < key) :
    insert key value entries = entries ++ [(key, value)] := by
  induction entries with
  | nil => rfl
  | cons first rest ih =>
    have below : first.1 < key := h first List.mem_cons_self
    have notAbove : ¬ key < first.1 := String.lt_asymm below
    have differs : ¬ key = first.1 := fun same => String.lt_irrefl key (same ▸ below)
    rw [insert, if_neg notAbove, if_neg differs,
      ih fun entry member => h entry (List.mem_cons_of_mem first member), List.cons_append]

theorem ofList_eq_self {α : Type} {entries : List (String × α)} (h : Ascending entries) :
    ofList entries = entries := by
  have fold : ∀ entries sorted : List (String × α), Ascending (sorted ++ entries) →
      entries.foldl (fun sorted entry => insert entry.1 entry.2 sorted) sorted =
        sorted ++ entries := by
    intro entries
    induction entries with
    | nil => simp
    | cons first rest ih =>
      intro sorted ascending
      have before : ∀ entry ∈ sorted, entry.1 < first.1 := fun entry member =>
        (List.pairwise_append.1 ascending).2.2 entry member first List.mem_cons_self
      rw [List.foldl_cons, insert_eq_append before, ih _ (by simpa using ascending)]
      simp
  exact fold entries [] h

theorem perm_insert {α : Type} {key : String} (value : α) {entries : List (String × α)}
    (new : key ∉ entries.map (·.1)) : (insert key value entries).Perm ((key, value) :: entries) := by
  fun_induction insert key value entries with
  | case1 => exact .refl _
  | case2 k old rest less => exact .refl _
  | case3 old rest less => exact absurd List.mem_cons_self new
  | case4 k old rest less differs ih =>
    have newInRest : key ∉ rest.map (·.1) := fun member => new (List.mem_cons_of_mem _ member)
    exact ((ih newInRest).cons _).trans (.swap ..)

theorem perm_ofList {α : Type} {entries : List (String × α)}
    (distinct : (entries.map (·.1)).Nodup) : (ofList entries).Perm entries := by
  have fold : ∀ entries sorted : List (String × α), ((entries ++ sorted).map (·.1)).Nodup →
      (entries.foldl (fun sorted entry => insert entry.1 entry.2 sorted) sorted).Perm
        (entries ++ sorted) := by
    intro entries
    induction entries with
    | nil => exact fun _ _ => .refl _
    | cons first rest ih =>
      intro sorted distinct
      rw [List.cons_append, List.map_cons, List.nodup_cons] at distinct
      have newInSorted : first.1 ∉ sorted.map (·.1) := fun member =>
        distinct.1 (by rw [List.map_append]; exact List.mem_append_right _ member)
      have inserted : (rest ++ insert first.1 first.2 sorted).Perm (first :: (rest ++ sorted)) :=
        ((perm_insert first.2 newInSorted).append_left rest).trans List.perm_middle
      refine (ih _ ?_).trans inserted
      exact (inserted.map _).nodup_iff.2 (List.nodup_cons.2 distinct)
  have all := fold entries [] (by rwa [List.append_nil])
  rwa [List.append_nil] at all

theorem lookup_ofList {α : Type} (entries : List (String × α)) (name : String) :
    (ofList entries).lookup name = entries.reverse.lookup name := by
  have fold (sorted : List (String × α)) :
      (entries.foldl (fun sorted entry => insert entry.1 entry.2 sorted) sorted).lookup name =
        (entries.reverse ++ sorted).lookup name := by
    induction entries generalizing sorted with
    | nil => rfl
    | cons entry rest ih =>
      have last : [entry].lookup name = if name = entry.1 then some entry.2 else none :=
        lookup_cons entry.1 name entry.2 []
      rw [List.foldl_cons, ih, List.reverse_cons, List.append_assoc, List.lookup_append,
        List.lookup_append, List.lookup_append, lookup_insert, last]
      by_cases h : name = entry.1 <;> simp [h]
  simpa [ofList] using fold []

end Keyed

end PriorArt
