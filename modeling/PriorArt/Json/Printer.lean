import PriorArt.Json.Basic
import PriorArt.Number.Shortest

/-!
# Writing JSON

The compact form of a value has no spacing; the indented form has one item or member a line, two
spaces deeper than what it belongs to.
-/

namespace PriorArt

/-- How a decimal numeral is laid out: with a point and no exponent if its leading digit stands for
a power of ten from `lowest` to `highest`. -/
structure NumeralLayout where
  lowest : Int
  highest : Int

namespace NumeralLayout

/-- Between a hundred-thousandth and ten thousand million million a number is written without an
exponent. -/
def json : NumeralLayout := ⟨-5, 15⟩

/-- The text of a numeral: at least one digit after the point if there is no exponent, and a sign
on every exponent. -/
def render (layout : NumeralLayout) (n : Binary64.Numeral) : List Char :=
  let digits := Nat.toDigits 10 n.significand
  let leading : Int := digits.length + n.exponent - 1
  if layout.lowest ≤ leading && leading ≤ layout.highest then
    if 0 ≤ n.exponent then digits ++ List.replicate n.exponent.toNat '0' ++ ['.', '0']
    else if 0 ≤ leading then
      digits.take (leading.toNat + 1) ++ '.' :: digits.drop (leading.toNat + 1)
    else ['0', '.'] ++ List.replicate (-leading - 1).toNat '0' ++ digits
  else
    let mantissa := match digits with
      | d :: e :: rest => d :: '.' :: e :: rest
      | digits => digits
    mantissa ++ 'e' :: (if leading < 0 then '-' else '+') :: Nat.toDigits 10 leading.natAbs

end NumeralLayout

namespace Json

def escapeChar (c : Char) : List Char :=
  if c = '"' then ['\\', '"']
  else if c = '\\' then ['\\', '\\']
  else if c = '\n' then ['\\', 'n']
  else if c = '\r' then ['\\', 'r']
  else if c = '\t' then ['\\', 't']
  else if c = '\x08' then ['\\', 'b']
  else if c = '\x0c' then ['\\', 'f']
  else if c < ' ' then
    ['\\', 'u', '0', '0'] ++ (if c.toNat < 16 then ['0'] else []) ++ Nat.toDigits 16 c.toNat
  else [c]

def quoteText (s : String) : String :=
  String.ofList ('"' :: s.toList.flatMap escapeChar ++ ['"'])

def floatText : Binary64 → String
  | .finite negative 0 => if negative then "-0.0" else "0.0"
  | .finite negative quanta =>
    let text := String.ofList (NumeralLayout.json.render (Binary64.shortest quanta))
    if negative then "-" ++ text else text
  | _ => "null"

def leafText : Json → String
  | .bool b => if b then "true" else "false"
  | .int i => toString i
  | .float x => floatText x
  | .string s => quoteText s
  | _ => "null"

mutual

def compact : Json → String
  | .array items => "[" ++ ",".intercalate (compactItems items) ++ "]"
  | .object members => "\x7b" ++ ",".intercalate (compactMembers members) ++ "\x7d"
  | leaf => leafText leaf

def compactItems : List Json → List String
  | [] => []
  | x :: xs => compact x :: compactItems xs

def compactMembers : List (String × Json) → List String
  | [] => []
  | (name, x) :: ms => (quoteText name ++ ":" ++ compact x) :: compactMembers ms

end

def lineBreak (level : Nat) : String :=
  String.ofList ('\n' :: List.replicate (2 * level) ' ')

/-- The parts of a container, each on a line of its own, between its brackets. -/
def enclose (opening closing : String) (level : Nat) (parts : List String) : String :=
  if parts.isEmpty then opening ++ closing
  else
    opening ++ lineBreak (level + 1) ++ ("," ++ lineBreak (level + 1)).intercalate parts ++
      lineBreak level ++ closing

mutual

def indented (level : Nat) : Json → String
  | .array items => enclose "[" "]" level (indentedItems (level + 1) items)
  | .object members => enclose "\x7b" "\x7d" level (indentedMembers (level + 1) members)
  | leaf => leafText leaf

def indentedItems (level : Nat) : List Json → List String
  | [] => []
  | x :: xs => indented level x :: indentedItems level xs

def indentedMembers (level : Nat) : List (String × Json) → List String
  | [] => []
  | (name, x) :: ms => (quoteText name ++ ": " ++ indented level x) :: indentedMembers level ms

end

end Json

end PriorArt
