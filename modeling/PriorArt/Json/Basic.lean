import PriorArt.Keyed
import PriorArt.Number.Binary64

/-!
# JSON values

A JSON value as a text gives it: the members of an object keep their order and may repeat a name.
`Json.tree?` gives the canonical form, in which each name occurs once and names ascend. The
canonical forms are the values in which they ascend already (`Json.tree?_eq_self_iff`).
-/

namespace PriorArt

/-- A JSON value. A whole number that fits in 64 bits, with or without a sign, is an `int`; every
other number is a `float`. A part is `unreadable` if its text is well formed but denotes nothing: a
number too large for a double, a string with half of a surrogate pair, or a container that lies too
deep inside others. -/
inductive Json where
  | null
  | bool (b : Bool)
  | int (i : Int)
  | float (x : Binary64)
  | string (s : String)
  | array (items : List Json)
  | object (members : List (String × Json))
  | unreadable
  deriving Inhabited

namespace Json

/-- The member of an object with a name: the first one, if the name repeats. -/
def member? (name : String) : Json → Option Json
  | .object members => members.lookup name
  | _ => none

def items? : Json → Option (List Json)
  | .array items => some items
  | _ => none

def string? : Json → Option String
  | .string s => some s
  | _ => none

def strings (xs : List String) : Json :=
  .array (xs.map .string)

def nat (n : Nat) : Json :=
  .int n

/-- A double, where one that is not finite has no JSON form but `null`. -/
def double (x : Binary64) : Json :=
  if x.isFinite then .float x else .null

/-- What `write` gives for a value, or `null` for none. -/
def orNull {α : Type} (write : α → Json) : Option α → Json
  | some x => write x
  | none => .null

mutual

/-- The canonical form of a value: each object has its names once, with the last value given to
them, and in ascending order. There is none for a value with an unreadable part. -/
def tree? : Json → Option Json
  | .unreadable => none
  | .array items => (treeItems? items).map .array
  | .object members => (treeMembers? members).map fun ms => .object (Keyed.ofList ms)
  | .null => some .null
  | .bool b => some (.bool b)
  | .int i => some (.int i)
  | .float x => some (.float x)
  | .string s => some (.string s)

def treeItems? : List Json → Option (List Json)
  | [] => some []
  | x :: xs => do
    let y ← tree? x
    let ys ← treeItems? xs
    return y :: ys

def treeMembers? : List (String × Json) → Option (List (String × Json))
  | [] => some []
  | (name, x) :: ms => do
    let y ← tree? x
    let ys ← treeMembers? ms
    return (name, y) :: ys

end

theorem treeItems?_eq_self {items : List Json} (h : ∀ x ∈ items, tree? x = some x) :
    treeItems? items = some items := by
  induction items with
  | nil => rfl
  | cons x xs ih =>
    simp [treeItems?, h x List.mem_cons_self, ih fun y hy => h y (List.mem_cons_of_mem x hy)]

theorem treeMembers?_eq_self {members : List (String × Json)}
    (h : ∀ m ∈ members, tree? m.2 = some m.2) : treeMembers? members = some members := by
  induction members with
  | nil => rfl
  | cons m ms ih =>
    simp [treeMembers?, h m List.mem_cons_self, ih fun n hn => h n (List.mem_cons_of_mem m hn)]

/-! ## Trees -/

/-- No part of the value is unreadable, and in every object the names ascend. -/
inductive IsTree : Json → Prop
  | null : IsTree .null
  | bool (b : Bool) : IsTree (.bool b)
  | int (i : Int) : IsTree (.int i)
  | float (x : Binary64) : IsTree (.float x)
  | string (s : String) : IsTree (.string s)
  | array {items : List Json} : (∀ x ∈ items, IsTree x) → IsTree (.array items)
  | object {members : List (String × Json)} :
      Keyed.Ascending members → (∀ m ∈ members, IsTree m.2) → IsTree (.object members)

theorem treeItems?_cons {x : Json} {xs ts : List Json} :
    treeItems? (x :: xs) = some ts ↔
      ∃ t rest, tree? x = some t ∧ treeItems? xs = some rest ∧ ts = t :: rest := by
  simp only [treeItems?, Option.bind_eq_bind, Option.bind_eq_some_iff, pure, Option.some.injEq,
    eq_comm (a := ts), exists_and_left]

theorem treeMembers?_cons {m : String × Json} {ms ts : List (String × Json)} :
    treeMembers? (m :: ms) = some ts ↔
      ∃ t rest, tree? m.2 = some t ∧ treeMembers? ms = some rest ∧ ts = (m.1, t) :: rest := by
  obtain ⟨name, x⟩ := m
  simp only [treeMembers?, Option.bind_eq_bind, Option.bind_eq_some_iff, pure, Option.some.injEq,
    eq_comm (a := ts), exists_and_left]

theorem tree?_array {items : List Json} {t : Json} :
    tree? (.array items) = some t ↔ ∃ ts, treeItems? items = some ts ∧ t = .array ts := by
  simp only [tree?, Option.map_eq_some_iff, eq_comm (a := t)]

theorem tree?_object {members : List (String × Json)} {t : Json} :
    tree? (.object members) = some t ↔
      ∃ ts, treeMembers? members = some ts ∧ t = .object (Keyed.ofList ts) := by
  simp only [tree?, Option.map_eq_some_iff, eq_comm (a := t)]

theorem IsTree.tree?_eq {t : Json} (tree : IsTree t) : tree? t = some t := by
  induction tree with
  | null => rfl
  | bool => rfl
  | int => rfl
  | float => rfl
  | string => rfl
  | array _ each => exact tree?_array.2 ⟨_, treeItems?_eq_self each, rfl⟩
  | object ascending _ each =>
    exact tree?_object.2
      ⟨_, treeMembers?_eq_self each, by rw [Keyed.ofList_eq_self ascending]⟩

mutual

theorem isTree_of_tree? {t : Json} : ∀ {j : Json}, tree? j = some t → IsTree t
  | .unreadable, h => by simp [tree?] at h
  | .null, h => by cases h; exact .null
  | .bool b, h => by cases h; exact .bool b
  | .int i, h => by cases h; exact .int i
  | .float x, h => by cases h; exact .float x
  | .string s, h => by cases h; exact .string s
  | .array items, h => by
    obtain ⟨ts, trees, rfl⟩ := tree?_array.1 h
    exact .array (isTree_of_treeItems? trees)
  | .object members, h => by
    obtain ⟨ts, trees, rfl⟩ := tree?_object.1 h
    exact .object (Keyed.ascending_ofList ts) fun m member =>
      isTree_of_treeMembers? trees m (Keyed.mem_of_mem_ofList member)

theorem isTree_of_treeItems? {ts : List Json} :
    ∀ {items : List Json}, treeItems? items = some ts → ∀ t ∈ ts, IsTree t
  | [], h => by cases h; simp
  | x :: xs, h => by
    obtain ⟨t, rest, first, others, rfl⟩ := treeItems?_cons.1 h
    exact List.forall_mem_cons.2 ⟨isTree_of_tree? first, isTree_of_treeItems? others⟩

theorem isTree_of_treeMembers? {ts : List (String × Json)} :
    ∀ {members : List (String × Json)}, treeMembers? members = some ts → ∀ t ∈ ts, IsTree t.2
  | [], h => by cases h; simp
  | (name, x) :: ms, h => by
    obtain ⟨t, rest, first, others, rfl⟩ := treeMembers?_cons.1 h
    exact List.forall_mem_cons.2 ⟨isTree_of_tree? first, isTree_of_treeMembers? others⟩

end

theorem tree?_eq_self_iff {j : Json} : tree? j = some j ↔ IsTree j :=
  ⟨isTree_of_tree?, IsTree.tree?_eq⟩

theorem tree?_of_tree?_eq_some {j t : Json} (h : tree? j = some t) : tree? t = some t :=
  (isTree_of_tree? h).tree?_eq

end Json

end PriorArt
