import PriorArt.Json.Basic

/-!
# Decoding JSON values

Readers of the parts of a value, each of which gives nothing if the value has not the form it
expects. A record is read from an object, in which members of unknown names are passed over, or
from an array of its fields in order.
-/

namespace PriorArt

namespace Json

def bool? : Json → Option Bool
  | .bool b => some b
  | _ => none

/-- A natural number below a limit, written as a whole number. -/
def natBelow? (limit : Nat) : Json → Option Nat
  | .int i => if 0 ≤ i && i < limit then some i.toNat else none
  | _ => none

theorem natBelow?_nat {limit n : Nat} (h : n < limit) : natBelow? limit (nat n) = some n := by
  simp [natBelow?, nat, h]

def nat16? : Json → Option Nat := natBelow? (Nat.pow 2 16)

def nat32? : Json → Option Nat := natBelow? (Nat.pow 2 32)

def nat64? : Json → Option Nat := natBelow? (Nat.pow 2 64)

def double? : Json → Option Binary64
  | .int i => some (.ofInt i)
  | .float x => some x
  | _ => none

theorem double?_double {x : Binary64} (h : x.isFinite = true) : double? (double x) = some x := by
  simp [double, double?, h]

/-- A number as the nearest one of single precision. -/
def single? : Json → Option Binary64
  | .int i => some (.singleOfInt i)
  | .float x => some x.toSingle
  | _ => none

def list? {α : Type} (item : Json → Option α) : Json → Option (List α)
  | .array items => items.mapM item
  | _ => none

theorem list?_array {α : Type} {item : Json → Option α} {write : α → Json} {xs : List α}
    (h : ∀ x ∈ xs, item (write x) = some x) : list? item (.array (xs.map write)) = some xs := by
  induction xs with
  | nil => rfl
  | cons x xs ih =>
    have tail := ih fun y hy => h y (List.mem_cons_of_mem x hy)
    simp only [list?] at tail
    simp [list?, h x List.mem_cons_self, tail]

def strings? : Json → Option (List String) := list? string?

def orNull? {α : Type} (item : Json → Option α) : Json → Option (Option α)
  | .null => some none
  | j => (item j).map some

/-- A value, or the given one for `null`. -/
def nullAs? {α : Type} (absent : α) (item : Json → Option α) : Json → Option α
  | .null => some absent
  | j => item j

/-- The fields of a record in their order, each with its name and the other names it is known
by. -/
abbrev Fields := List (String × List String)

/-- The fields that were given, each under its own name. -/
abbrev Record := List (String × Json)

/-- The own name of the field that a name belongs to. -/
def Fields.find? (fields : Fields) (name : String) : Option String :=
  (List.find? (fun field => name == field.1 || field.2.contains name) fields).map (·.1)

/-- The fields that members give. A field given twice, under whatever names, spoils the record. -/
def Fields.ofMembers? (fields : Fields) : List (String × Json) → Option Record
  | [] => some []
  | (name, value) :: rest =>
    match fields.find? name with
    | none => fields.ofMembers? rest
    | some own =>
      match fields.ofMembers? rest with
      | none => none
      | some record => if (record.lookup own).isSome then none else some ((own, value) :: record)

def record? (fields : Fields) : Json → Option Record
  | .object members => fields.ofMembers? members
  | .array items =>
    if items.length ≤ fields.length then some ((fields.map (·.1)).zip items) else none
  | _ => none

/-- The fields that a value gives, where what follows the last field in an array is passed over. -/
def openRecord? (fields : Fields) : Json → Option Record
  | .array items => some ((fields.map (·.1)).zip items)
  | j => record? fields j

/-- A field that has to be given. -/
def Record.get? {α : Type} (record : Record) (name : String) (item : Json → Option α) : Option α :=
  match record.lookup name with
  | some value => item value
  | none => none

/-- A field with a value of its own if it is not given. -/
def Record.getD? {α : Type} (record : Record) (name : String) (absent : α)
    (item : Json → Option α) : Option α :=
  match record.lookup name with
  | some value => item value
  | none => some absent

end Json

end PriorArt
