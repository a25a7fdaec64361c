import PriorArt.Json.Basic

/-!
# TOML tables under construction

The tables of a TOML text come about line by line. What a line may add to a table depends on how
the table came about: a header defines a table once, a dotted key adds only to tables that dotted
keys or the paths of headers made, and nothing adds to a value.
-/

namespace PriorArt.Toml

/-- How a table came about: by a header of its own, on the path of another header, or by a dotted
key. -/
inductive Origin where
  | header
  | path
  | dotted
  deriving DecidableEq

/-- What a key stands for: a value, a table, or tables of one name, the newest first. -/
inductive Node where
  | leaf (value : Json)
  | table (origin : Origin) (entries : List (String × Node))
  | tables (items : List (List (String × Node)))

/-- The entries of a table in the order of their first appearance. -/
abbrev Entries := List (String × Node)

namespace Entries

def set (name : String) (node : Node) (entries : Entries) : Entries :=
  entries.map fun entry => if entry.1 = name then (name, node) else entry

/-- The entries with a value under a dotted key that stands for nothing yet. A table that a dotted
key leads through counts as one that dotted keys made. Through several tables of one name the key
leads to the newest, but adds nothing to that table itself. -/
def insert? (value : Json) : List String → Entries → Option Entries
  | [], _ => none
  | [name], entries =>
    match entries.lookup name with
    | none => some (entries ++ [(name, .leaf value)])
    | some _ => none
  | name :: inner :: key, entries =>
    match entries.lookup name with
    | none =>
      (insert? value (inner :: key) []).map fun es => entries ++ [(name, .table .dotted es)]
    | some (.table .header _) => none
    | some (.table _ es) =>
      (insert? value (inner :: key) es).map fun es => entries.set name (.table .dotted es)
    | some (.tables (es :: older)) =>
      if key.isEmpty then none
      else (insert? value (inner :: key) es).map fun es =>
        entries.set name (.tables (es :: older))
    | some _ => none

def define? (name : String) (entries : Entries) : Option Entries :=
  match entries.lookup name with
  | none => some (entries ++ [(name, .table .header [])])
  | some (.table .path es) => some (entries.set name (.table .header es))
  | some _ => none

def append? (name : String) (entries : Entries) : Option Entries :=
  match entries.lookup name with
  | none => some (entries ++ [(name, .tables [[]])])
  | some (.tables items) => some (entries.set name (.tables ([] :: items)))
  | some _ => none

/-- The entries after a change to the table that a path leads to. Tables that are missing on the
path come about, and of several tables of one name the path leads to the newest. -/
def alter? (change : Entries → Option Entries) : List String → Entries → Option Entries
  | [], entries => change entries
  | name :: path, entries =>
    match entries.lookup name with
    | none => (alter? change path []).map fun es => entries ++ [(name, .table .path es)]
    | some (.table origin es) =>
      (alter? change path es).map fun es => entries.set name (.table origin es)
    | some (.tables (es :: older)) =>
      (alter? change path es).map fun es => entries.set name (.tables (es :: older))
    | some _ => none

end Entries

/-! ## Finished tables -/

mutual

def Node.toJson : Node → Json
  | .leaf value => value
  | .table _ entries => .object (entriesJson entries)
  | .tables items => .array (itemsJson items).reverse

def entriesJson : List (String × Node) → List (String × Json)
  | [] => []
  | (name, node) :: rest => (name, node.toJson) :: entriesJson rest

def itemsJson : List (List (String × Node)) → List Json
  | [] => []
  | entries :: rest => .object (entriesJson entries) :: itemsJson rest

end

end PriorArt.Toml
