import PriorArt.Json.Printer
import PriorArt.Toml.Scalar

/-!
# Writing TOML

A JSON object as a TOML text: the values of a table one a line, then the tables in it, each under a
header with its whole path. An array that consists of tables has one header for each of them, and a
table inside any other array is written in one line. What has no value is left out.
-/

namespace PriorArt.Toml

/-! ## Keys and scalars -/

def writeChar (c : Char) : List Char :=
  if c = '\x7f' then "\\u007f".toList else Json.escapeChar c

def writeString (s : String) : String :=
  String.ofList ('"' :: s.toList.flatMap writeChar ++ ['"'])

/-- One part of a key, in quotes only where it has to be. -/
def writeKeyPart (part : String) : String :=
  if part ≠ "" && part.toList.all isBare then part else writeString part

def writeKey (path : List String) : String :=
  ".".intercalate (path.map writeKeyPart)

/-- A number with a fraction or an exponent, or one that is not finite. -/
def writeFloat : Binary64 → String
  | .nan => "nan"
  | .infinite negative => if negative then "-inf" else "inf"
  | x => Json.floatText x

def writeScalar : Json → String
  | .float x => writeFloat x
  | .string s => writeString s
  | scalar => Json.leafText scalar

/-- The value says something that TOML has a form for. -/
def isWritten : Json → Bool
  | .null => false
  | .unreadable => false
  | _ => true

/-! ## Values in one line -/

mutual

def writeValue : Json → String
  | .array items => "[" ++ ", ".intercalate (writeItems items) ++ "]"
  | .object members => "\x7b" ++ ", ".intercalate (writeMembers members) ++ "\x7d"
  | scalar => writeScalar scalar

def writeItems : List Json → List String
  | [] => []
  | x :: xs => if isWritten x then writeValue x :: writeItems xs else writeItems xs

def writeMembers : List (String × Json) → List String
  | [] => []
  | (name, x) :: rest =>
    if isWritten x then (writeKeyPart name ++ " = " ++ writeValue x) :: writeMembers rest
    else writeMembers rest

end

/-! ## Tables -/

def isTable : Json → Bool
  | .object _ => true
  | _ => false

/-- The value is written under headers: a table, or an array that consists of tables. -/
def isSection : Json → Bool
  | .object _ => true
  | .array items => !items.isEmpty && items.all isTable
  | _ => false

def entryLines (members : List (String × Json)) : List String :=
  writeMembers (members.filter fun member => !isSection member.2)

mutual

def sectionLines (path : List String) : Json → List String
  | .object members =>
    ("[" ++ writeKey path ++ "]") :: entryLines members ++ memberLines path members
  | .array items => if isSection (.array items) then itemLines path items else []
  | _ => []

def itemLines (path : List String) : List Json → List String
  | [] => []
  | .object members :: rest =>
    ("[[" ++ writeKey path ++ "]]") :: entryLines members ++ memberLines path members ++
      itemLines path rest
  | _ :: rest => itemLines path rest

def memberLines (path : List String) : List (String × Json) → List String
  | [] => []
  | (name, x) :: rest => sectionLines (path ++ [name]) x ++ memberLines path rest

end

def write (members : List (String × Json)) : String :=
  String.join ((entryLines members ++ memberLines [] members).map (· ++ "\n"))

end PriorArt.Toml
