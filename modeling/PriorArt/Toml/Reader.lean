import PriorArt.Toml.Scalar
import PriorArt.Toml.Table

/-!
# Reading TOML

A text is read line by line into one table, which is given as a JSON object.
-/

namespace PriorArt.Toml

/-! ## Between tokens -/

def lineEnd? (inComment : Bool) : List Char → Option (List Char)
  | [] => some []
  | '\n' :: cs => some cs
  | '\r' :: '\n' :: cs => some cs
  | c :: cs =>
    if inComment then if isControl c then none else lineEnd? true cs
    else if isBlank c then lineEnd? false cs
    else if c = '#' then lineEnd? true cs
    else none

def skipFiller? (inComment : Bool) : List Char → Option (List Char)
  | [] => some []
  | '\n' :: cs => skipFiller? false cs
  | '\r' :: '\n' :: cs => skipFiller? false cs
  | c :: cs =>
    if inComment then if isControl c then none else skipFiller? true cs
    else if isBlank c then skipFiller? false cs
    else if c = '#' then skipFiller? true cs
    else some (c :: cs)

/-! ## Values -/

/-- A key of an inline table, and the text of its value after the equals sign. Line breaks and
comments may stand around that sign. -/
def inlineKey? (cs : List Char) : Option (List String × List Char) := do
  let (key, cs) ← key? cs
  let some ('=' :: cs) := skipFiller? false cs | none
  return (key, ← skipFiller? false cs)

mutual

/-- A value at the start of a text, and the text after it. The fuel bounds the number of steps, the
room the number of containers inside one another. -/
def value? : Nat → Nat → List Char → Option (Json × List Char)
  | 0, _, _ => none
  | fuel + 1, room, '[' :: cs => if room = 0 then none else arrayItems? fuel (room - 1) [] cs
  | fuel + 1, room, '\x7b' :: cs => if room = 0 then none else inlineEntries? fuel (room - 1) [] cs
  | _ + 1, _, cs => scalar? cs

def arrayItems? : Nat → Nat → List Json → List Char → Option (Json × List Char)
  | 0, _, _, _ => none
  | fuel + 1, room, acc, cs =>
    match skipFiller? false cs with
    | none => none
    | some (']' :: cs) => some (.array acc.reverse, cs)
    | some cs =>
      match value? fuel room cs with
      | none => none
      | some (item, cs) =>
        match skipFiller? false cs with
        | some (',' :: cs) => arrayItems? fuel room (item :: acc) cs
        | some (']' :: cs) => some (.array (item :: acc).reverse, cs)
        | _ => none

def inlineEntries? : Nat → Nat → Entries → List Char → Option (Json × List Char)
  | 0, _, _, _ => none
  | fuel + 1, room, entries, cs =>
    match skipFiller? false cs with
    | none => none
    | some ('\x7d' :: cs) => some (.object (entriesJson entries), cs)
    | some cs =>
      match inlineKey? cs with
      | none => none
      | some (key, cs) =>
        match value? fuel room cs with
        | none => none
        | some (value, cs) =>
          match entries.insert? value key, skipFiller? false cs with
          | some entries, some (',' :: cs) => inlineEntries? fuel room entries cs
          | some entries, some ('\x7d' :: cs) => some (.object (entriesJson entries), cs)
          | _, _ => none

end

/-! ## Lines -/

/-- The tables read so far, and the path of the one that keys belong to. -/
structure Draft where
  root : Entries
  path : List String

/-- A header after its opening brackets, with the closing brackets it takes: the tables after the
change to the table that its last part is a name in. -/
def header? (closing : List Char) (change : String → Entries → Option Entries) (draft : Draft)
    (cs : List Char) : Option (Draft × List Char) := do
  let (path, rest) ← key? cs
  if !closing.isPrefixOf rest then none
  let name ← path.getLast?
  let root ← draft.root.alter? (change name) path.dropLast
  return (⟨root, path⟩, rest.drop closing.length)

def entry? (draft : Draft) (cs : List Char) : Option (Draft × List Char) := do
  let (key, rest) ← key? cs
  let '=' :: rest := rest | none
  let rest := skipBlanks rest
  let (value, rest) ← value? (2 * rest.length + 2) deepest rest
  let root ← draft.root.alter? (Entries.insert? value key) draft.path
  return ({ draft with root }, rest)

def line? (draft : Draft) (cs : List Char) : Option (Draft × List Char) :=
  match skipBlanks cs with
  | [] => some (draft, [])
  | '\n' :: cs => some (draft, '\n' :: cs)
  | '\r' :: '\n' :: cs => some (draft, '\r' :: '\n' :: cs)
  | '#' :: cs => some (draft, '#' :: cs)
  | '[' :: '[' :: cs => header? [']', ']'] Entries.append? draft cs
  | '[' :: cs => header? [']'] Entries.define? draft cs
  | cs => entry? draft cs

/-- The tables after all lines of a text. The fuel bounds the number of lines. -/
def lines? : Nat → Draft → List Char → Option Entries
  | 0, _, _ => none
  | _ + 1, draft, [] => some draft.root
  | fuel + 1, draft, cs => do
    let (draft, rest) ← line? draft cs
    lines? fuel draft (← lineEnd? false rest)

def byteOrderMark : Char := '\ufeff'

def read? (text : String) : Option Json :=
  let cs := match text.toList with
    | c :: cs => if c = byteOrderMark then cs else c :: cs
    | [] => []
  (lines? (cs.length + 1) ⟨[], []⟩ cs).map fun entries => .object (entriesJson entries)

end PriorArt.Toml
