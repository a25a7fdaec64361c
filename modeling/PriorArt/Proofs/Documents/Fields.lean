import PriorArt.Json.Decode

/-!
# Reading back what was written

What is written as a JSON value is received as it was written, or in canonical form, where the
members of every object stand in the order of their names.

1. `Json.IsReadable`: the values that have a canonical form.
2. `Json.Reads`: something is read from a value in both forms. There is a lemma for each decoder of
   a part of a record.
3. What a decoder gave lies in its range (`Json.lt_of_natBelow?`, `Json.isFinite_of_double?`).
4. `Json.exists_record`: an object gives a record in both forms, in which each member is found in
   one of the two forms (`Json.Given`).
-/

namespace PriorArt

namespace Json

/-! ## Values with a canonical form -/

def IsReadable (j : Json) : Prop :=
  ∃ t, tree? j = some t

theorem IsTree.isReadable {t : Json} (tree : IsTree t) : IsReadable t :=
  ⟨t, tree.tree?_eq⟩

@[simp] theorem isReadable_null : IsReadable .null := IsTree.null.isReadable

@[simp] theorem isReadable_bool (b : Bool) : IsReadable (.bool b) := (IsTree.bool b).isReadable

@[simp] theorem isReadable_string (s : String) : IsReadable (.string s) :=
  (IsTree.string s).isReadable

@[simp] theorem isReadable_nat (n : Nat) : IsReadable (nat n) := (IsTree.int n).isReadable

theorem isTree_double (x : Binary64) : IsTree (double x) := by
  unfold double
  split
  · exact .float x
  · exact .null

@[simp] theorem isReadable_double (x : Binary64) : IsReadable (double x) :=
  (isTree_double x).isReadable

theorem exists_treeItems?_iff {items : List Json} :
    (∃ ts, treeItems? items = some ts) ↔ ∀ x ∈ items, IsReadable x := by
  induction items with
  | nil => simp [treeItems?]
  | cons x xs ih =>
    rw [List.forall_mem_cons, ← ih]
    constructor
    · rintro ⟨ts, trees⟩
      obtain ⟨t, rest, first, others, -⟩ := treeItems?_cons.1 trees
      exact ⟨⟨t, first⟩, rest, others⟩
    · rintro ⟨⟨t, first⟩, rest, others⟩
      exact ⟨t :: rest, treeItems?_cons.2 ⟨t, rest, first, others, rfl⟩⟩

theorem exists_treeMembers?_iff {members : List (String × Json)} :
    (∃ ts, treeMembers? members = some ts) ↔ ∀ m ∈ members, IsReadable m.2 := by
  induction members with
  | nil => simp [treeMembers?]
  | cons m ms ih =>
    rw [List.forall_mem_cons, ← ih]
    constructor
    · rintro ⟨ts, trees⟩
      obtain ⟨t, rest, first, others, -⟩ := treeMembers?_cons.1 trees
      exact ⟨⟨t, first⟩, rest, others⟩
    · rintro ⟨⟨t, first⟩, rest, others⟩
      exact ⟨(m.1, t) :: rest, treeMembers?_cons.2 ⟨t, rest, first, others, rfl⟩⟩

@[simp] theorem isReadable_array {items : List Json} :
    IsReadable (.array items) ↔ ∀ x ∈ items, IsReadable x := by
  rw [← exists_treeItems?_iff, IsReadable]
  simp only [tree?_array, exists_comm (α := Json), exists_and_left, exists_eq, and_true]

@[simp] theorem isReadable_object {members : List (String × Json)} :
    IsReadable (.object members) ↔ ∀ m ∈ members, IsReadable m.2 := by
  rw [← exists_treeMembers?_iff, IsReadable]
  simp only [tree?_object, exists_comm (α := Json), exists_and_left, exists_eq, and_true]

@[simp] theorem isReadable_strings (xs : List String) : IsReadable (strings xs) := by
  simp [strings]

theorem isReadable_orNull {α : Type} {write : α → Json} {x : Option α}
    (readable : ∀ y ∈ x, IsReadable (write y)) : IsReadable (orNull write x) := by
  cases x with
  | none => exact isReadable_null
  | some y => exact readable y rfl

/-! ## Parts -/

/-- The value as it was written, or its canonical form. -/
def IsFormOf (value form : Json) : Prop :=
  form = value ∨ tree? value = some form

theorem isFormOf_eq {t form : Json} (tree : IsTree t) (isForm : IsFormOf t form) : form = t := by
  rcases isForm with same | canonical
  · exact same
  · rw [tree.tree?_eq] at canonical
    exact (Option.some.inj canonical).symm

theorem IsFormOf.ne_null {value form : Json} (isForm : IsFormOf value form)
    (visible : value ≠ .null) : form ≠ .null := by
  rcases isForm with rfl | canonical
  · exact visible
  · rintro rfl
    cases value <;> simp_all [tree?]

/-- The item is read from the value in both forms. -/
def Reads {α : Type} (item : Json → Option α) (value : Json) (x : α) : Prop :=
  ∀ form, IsFormOf value form → item form = some x

/-- The value has a canonical form, and the item is read from it in both forms. -/
structure Restores {α : Type} (item : Json → Option α) (value : Json) (x : α) : Prop where
  readable : IsReadable value
  reads : Reads item value x

namespace Reads

variable {α β : Type} {item : Json → Option α} {value : Json} {x : α}

theorem of_isTree (tree : IsTree value) (read : item value = some x) : Reads item value x := by
  intro form isForm
  rw [isFormOf_eq tree isForm, read]

theorem bool (b : Bool) : Reads bool? (.bool b) b :=
  of_isTree (.bool b) rfl

theorem string (s : String) : Reads string? (.string s) s :=
  of_isTree (.string s) rfl

theorem nat {limit n : Nat} (small : n < limit) : Reads (natBelow? limit) (nat n) n :=
  of_isTree (.int n) (natBelow?_nat small)

theorem double {x : Binary64} (finite : x.isFinite = true) : Reads double? (double x) x :=
  of_isTree (isTree_double x) (double?_double finite)

theorem tree (tree : IsTree value) : Reads tree? value value :=
  of_isTree tree tree.tree?_eq

theorem map (reads : Reads item value x) (f : α → β) :
    Reads (fun j => (item j).map f) value (f x) := by
  intro form isForm
  simp only [reads form isForm, Option.map_some]

theorem list {write : α → Json} {xs : List α} (each : ∀ x ∈ xs, Reads item (write x) x) :
    Reads (list? item) (.array (xs.map write)) xs := by
  rintro form (rfl | canonical)
  · exact list?_array fun x member => each x member _ (.inl rfl)
  · obtain ⟨ts, trees, rfl⟩ := tree?_array.1 canonical
    change ts.mapM item = some xs
    clear canonical
    induction xs generalizing ts with
    | nil =>
      cases trees
      rfl
    | cons x xs ih =>
      obtain ⟨t, rest, first, others, rfl⟩ := treeItems?_cons.1 trees
      have readFirst : item t = some x := each x List.mem_cons_self t (.inr first)
      have readOthers : rest.mapM item = some xs :=
        ih (fun y member => each y (List.mem_cons_of_mem x member)) rest others
      simp [readFirst, readOthers]

theorem strings (xs : List String) : Reads strings? (strings xs) xs :=
  list fun s _ => string s

theorem nullAs {absent : α} (reads : Reads item value x) (visible : value ≠ .null) :
    Reads (nullAs? absent item) value x := by
  intro form isForm
  rw [nullAs?]
  · exact reads form isForm
  · exact isForm.ne_null visible

theorem orNull {write : α → Json} {x : Option α} (given : ∀ y ∈ x, Reads item (write y) y)
    (visible : ∀ y ∈ x, write y ≠ .null) : Reads (orNull? item) (orNull write x) x := by
  cases x with
  | none => exact of_isTree .null rfl
  | some y =>
    intro form isForm
    rw [orNull?]
    · rw [given y rfl form isForm]
      rfl
    · exact isForm.ne_null (visible y rfl)

end Reads

/-! ## What was read -/

section Read

variable {α : Type} {item : Json → Option α} {j : Json} {x : α}

theorem lt_of_natBelow? {limit n : Nat} (read : natBelow? limit j = some n) : n < limit := by
  cases j with
  | int i =>
    simp only [natBelow?] at read
    split at read
    · next inside =>
      cases read
      simp only [Bool.and_eq_true, decide_eq_true_eq] at inside
      omega
    · cases read
  | _ => cases read

theorem isFinite_of_double? {x y : Binary64} (read : double? (double x) = some y) :
    x.isFinite = true := by
  cases finite : x.isFinite with
  | true => rfl
  | false => simp [double, double?, finite] at read

theorem exists_of_list? {xs : List α} (read : list? item j = some xs) :
    ∀ x ∈ xs, ∃ value, item value = some x := by
  cases j with
  | array items =>
    change items.mapM item = some xs at read
    induction items generalizing xs with
    | nil =>
      cases read
      simp
    | cons value rest ih =>
      simp only [List.mapM_cons, Option.bind_eq_bind, Option.bind_eq_some_iff, pure,
        Option.some.injEq] at read
      obtain ⟨x, first, ys, others, rfl⟩ := read
      exact List.forall_mem_cons.2 ⟨⟨value, first⟩, ih others⟩
  | _ => cases read

theorem of_nullAs? {absent : α} (read : nullAs? absent item j = some x) :
    x = absent ∨ item j = some x := by
  unfold nullAs? at read
  split at read
  · exact .inl (Option.some.inj read).symm
  · exact .inr read

theorem exists_of_get? {record : Record} {name : String}
    (read : record.get? name item = some x) : ∃ value, item value = some x := by
  unfold Record.get? at read
  split at read
  · exact ⟨_, read⟩
  · cases read

theorem exists_of_getD? {record : Record} {name : String} {absent : α}
    (read : record.getD? name absent item = some x) :
    x = absent ∨ ∃ value, item value = some x := by
  unfold Record.getD? at read
  split at read
  · exact .inr ⟨_, read⟩
  · exact .inl (Option.some.inj read).symm

end Read

/-! ## Records -/

/-- Each field is known by its own name, and no two have the same. -/
structure Fields.IsProper (fields : Fields) : Prop where
  own : ∀ field ∈ fields, fields.find? field.1 = some field.1
  distinct : (fields.map (·.1)).Nodup

instance (fields : Fields) : Decidable fields.IsProper :=
  decidable_of_iff
    ((∀ field ∈ fields, fields.find? field.1 = some field.1) ∧ (fields.map (·.1)).Nodup)
    ⟨fun ⟨own, distinct⟩ => ⟨own, distinct⟩, fun proper => ⟨proper.own, proper.distinct⟩⟩

/-- Members under distinct names of fields are the record. -/
theorem Fields.ofMembers?_eq_self {fields : Fields} {members : List (String × Json)}
    (own : ∀ name ∈ members.map (·.1), fields.find? name = some name)
    (distinct : (members.map (·.1)).Nodup) : fields.ofMembers? members = some members := by
  induction members with
  | nil => rfl
  | cons m ms ih =>
    obtain ⟨new, distinct⟩ := List.nodup_cons.1 distinct
    obtain ⟨ownName, own⟩ := List.forall_mem_cons.1 own
    have notGiven : ms.lookup m.1 = none := by
      refine List.lookup_eq_none_iff.2 fun n member => ?_
      rw [bne_iff_ne]
      exact fun same => new (List.mem_map.2 ⟨n, member, same.symm⟩)
    rw [ofMembers?, ownName, ih own distinct]
    simp [notGiven]

/-- The record gives each of the members, in one of its two forms, and nothing else. -/
structure Given (members : List (String × Json)) (record : Record) : Prop where
  found : ∀ {name value}, members.lookup name = some value →
    ∃ form, record.lookup name = some form ∧ IsFormOf value form
  missing : ∀ {name}, members.lookup name = none → record.lookup name = none

namespace Given

variable {α : Type} {members : List (String × Json)} {record : Record} {item : Json → Option α}
  {value : Json} {x : α}

theorem refl (members : List (String × Json)) : Given members members :=
  ⟨fun found => ⟨_, found, .inl rfl⟩, id⟩

theorem get? (given : Given members record) (name : String)
    (found : members.lookup name = some value) (reads : Reads item value x) :
    record.get? name item = some x := by
  obtain ⟨form, here, isForm⟩ := given.found found
  rw [Record.get?, here]
  exact reads form isForm

theorem getD? (given : Given members record) (name : String)
    (found : members.lookup name = some value) (reads : Reads item value x) (absent : α) :
    record.getD? name absent item = some x := by
  obtain ⟨form, here, isForm⟩ := given.found found
  rw [Record.getD?, here]
  exact reads form isForm

theorem of_get? (given : Given members record) (name : String)
    (found : members.lookup name = some value) (tree : IsTree value)
    (read : record.get? name item = some x) : item value = some x := by
  obtain ⟨form, here, isForm⟩ := given.found found
  rwa [Record.get?, here, isFormOf_eq tree isForm] at read

theorem of_getD? {absent : α} (given : Given members record) (name : String)
    (found : members.lookup name = some value) (tree : IsTree value)
    (read : record.getD? name absent item = some x) : item value = some x := by
  obtain ⟨form, here, isForm⟩ := given.found found
  rwa [Record.getD?, here, isFormOf_eq tree isForm] at read

theorem getD?_missing (given : Given members record) (name : String)
    (missing : members.lookup name = none) (absent : α) :
    record.getD? name absent item = some absent := by
  rw [Record.getD?, given.missing missing]

end Given

theorem names_of_treeMembers? {members ts : List (String × Json)}
    (trees : treeMembers? members = some ts) : ts.map (·.1) = members.map (·.1) := by
  induction members generalizing ts with
  | nil =>
    cases trees
    rfl
  | cons m ms ih =>
    obtain ⟨t, rest, -, others, rfl⟩ := treeMembers?_cons.1 trees
    rw [List.map_cons, ih others, List.map_cons]

theorem lookup_of_treeMembers? {members ts : List (String × Json)}
    (trees : treeMembers? members = some ts) (name : String) :
    ts.lookup name = (members.lookup name).bind tree? := by
  induction members generalizing ts with
  | nil =>
    cases trees
    rfl
  | cons m ms ih =>
    obtain ⟨t, rest, first, others, rfl⟩ := treeMembers?_cons.1 trees
    rw [Keyed.lookup_cons, Keyed.lookup_cons, ih others]
    split
    · exact first.symm
    · rfl

theorem exists_record {fields : Fields} {members : List (String × Json)} {form : Json}
    (isForm : IsFormOf (.object members) form) (proper : fields.IsProper)
    (names : (members.map (·.1)).Sublist (fields.map (·.1))) :
    ∃ record, record? fields form = some record ∧ Given members record := by
  have own : ∀ name ∈ members.map (·.1), fields.find? name = some name := by
    intro name member
    obtain ⟨field, inFields, rfl⟩ := List.mem_map.1 (names.subset member)
    exact proper.own field inFields
  have distinct : (members.map (·.1)).Nodup := proper.distinct.sublist names
  rcases isForm with rfl | canonical
  · exact ⟨members, Fields.ofMembers?_eq_self own distinct, .refl members⟩
  · obtain ⟨ts, trees, rfl⟩ := tree?_object.1 canonical
    have sameNames := names_of_treeMembers? trees
    rw [← sameNames] at own distinct
    have perm : (Keyed.ofList ts).Perm ts := Keyed.perm_ofList distinct
    have sortedDistinct : ((Keyed.ofList ts).map (·.1)).Nodup :=
      (perm.map _).nodup_iff.2 distinct
    have lookup (name : String) :
        (Keyed.ofList ts).lookup name = (members.lookup name).bind tree? := by
      rw [Keyed.lookup_eq_of_perm perm sortedDistinct, lookup_of_treeMembers? trees]
    refine ⟨Keyed.ofList ts, ?_, ?_, ?_⟩
    · refine Fields.ofMembers?_eq_self (fun name member => own name ?_) sortedDistinct
      exact (perm.map _).mem_iff.1 member
    · intro name value found
      -- The member was written, so it has a canonical form as the whole has one.
      have readable : IsReadable value :=
        isReadable_object.1 ⟨_, canonical⟩ (name, value) (Keyed.mem_of_lookup found)
      obtain ⟨t, tree⟩ := readable
      exact ⟨t, by rw [lookup, found]; exact tree, .inr tree⟩
    · intro name missing
      rw [lookup, missing]
      rfl

end Json

end PriorArt
