import PriorArt.Json.Basic
import PriorArt.Number.Decimal
import PriorArt.Number.Radix

/-!
# Reading JSON

A strict reader: only space, tab, line feed and carriage return may stand between tokens, and
nothing may follow the value. Strings hold no raw control characters, and numbers have no leading
zeros. What lies too deep inside containers is checked for its form only.
-/

namespace PriorArt

namespace Json

def isSpacing (c : Char) : Bool :=
  c = ' ' || c = '\t' || c = '\n' || c = '\r'

def skipSpacing (cs : List Char) : List Char :=
  cs.dropWhile isSpacing

def hexWord? (a b c d : Char) : Option Nat :=
  if [a, b, c, d].all (Radix.isDigit 16) then some (Radix.ofDigits 16 [a, b, c, d]) else none

def escape? (c : Char) : Option Char :=
  match c with
  | '"' => some '"'
  | '\\' => some '\\'
  | '/' => some '/'
  | 'b' => some '\x08'
  | 'f' => some '\x0c'
  | 'n' => some '\n'
  | 'r' => some '\r'
  | 't' => some '\t'
  | _ => none

/-- The code points of a string up to its closing quote, and the text after that. A code point
given by an escape may be half of a surrogate pair. The code points in `acc` come first, the last
of them at its head. -/
def codePoints? (acc : List Nat) : List Char → Option (List Nat × List Char)
  | [] => none
  | '"' :: cs => some (acc.reverse, cs)
  | '\\' :: 'u' :: a :: b :: c :: d :: cs =>
    match hexWord? a b c d with
    | some n => codePoints? (n :: acc) cs
    | none => none
  | '\\' :: e :: cs =>
    match escape? e with
    | some c => codePoints? (c.toNat :: acc) cs
    | none => none
  | c :: cs => if c < ' ' then none else codePoints? (c.toNat :: acc) cs

def isLeadingSurrogate (n : Nat) : Bool :=
  0xD800 ≤ n && n ≤ 0xDBFF

def isTrailingSurrogate (n : Nat) : Bool :=
  0xDC00 ≤ n && n ≤ 0xDFFF

/-- The characters that code points denote, where a surrogate pair denotes one character and half
of a pair denotes none. -/
def characters? : List Nat → Option (List Char)
  | [] => some []
  | [n] =>
    if isLeadingSurrogate n || isTrailingSurrogate n then none else some [Char.ofNat n]
  | n :: m :: rest =>
    if isLeadingSurrogate n then
      if isTrailingSurrogate m then
        (characters? rest).map (Char.ofNat (0x10000 + (n - 0xD800) * 0x400 + (m - 0xDC00)) :: ·)
      else none
    else if isTrailingSurrogate n then none
    else (characters? (m :: rest)).map (Char.ofNat n :: ·)

/-- The text of a string whose opening quote has been read, if it denotes one, and the text after
its closing quote. -/
def quoted? (cs : List Char) : Option (Option String × List Char) :=
  (codePoints? [] cs).map fun (points, rest) => ((characters? points).map String.ofList, rest)

/-- As many of the digits as keep the number below `2^64`, starting from `acc`: the number they
give, how many they are, and the digits left. -/
def wordOfDigits (acc taken : Nat) : List Char → Nat × Nat × List Char
  | [] => (acc, taken, [])
  | c :: cs =>
    let next := acc * 10 + (Decimal.digit? c).getD 0
    if next < Nat.pow 2 64 then wordOfDigits next (taken + 1) cs else (acc, taken, c :: cs)

/-- The number with the given digits before the point, digits after it if there is a point, and
exponent if there is one. A whole number that does not fit in 64 bits is a float, and so is minus
zero. Of a longer numeral only the first digits count, as many as fit in 64 bits. -/
def ofNumeral (negative : Bool) (whole : List Char) (fraction : Option (List Char))
    (exponent : Option Int) : Json :=
  let (significand, _, dropped) := wordOfDigits 0 0 whole
  let float (significand : Nat) (power : Int) : Json :=
    match Binary64.assemble? negative significand (power + exponent.getD 0) with
    | some x => .float x
    | none => .unreadable
  match fraction, exponent with
  | none, none =>
    if !dropped.isEmpty then float significand dropped.length
    else if !negative then .int significand
    else if 0 < significand && significand ≤ Nat.pow 2 63 then .int (-significand)
    else .float (Binary64.ofRatio true significand 1)
  | _, _ =>
    let (significand, taken, _) := wordOfDigits significand 0 (fraction.getD [])
    float significand (dropped.length - taken)

/-- An exponent after its letter: an optional sign and at least one digit. -/
def exponent? (cs : List Char) : Option (Int × List Char) :=
  let (negative, cs) := match cs with
    | '+' :: cs => (false, cs)
    | '-' :: cs => (true, cs)
    | cs => (false, cs)
  let digits := cs.takeWhile Decimal.isDigit
  if digits.isEmpty then none
  else
    let n : Int := Decimal.ofDigits digits
    some (if negative then -n else n, cs.dropWhile Decimal.isDigit)

/-- A number without its sign. -/
def magnitude? (negative : Bool) (cs : List Char) : Option (Json × List Char) := do
  let whole := cs.takeWhile Decimal.isDigit
  let rest := cs.dropWhile Decimal.isDigit
  if whole.isEmpty || (1 < whole.length && whole.head? = some '0') then none
  let (fraction, rest) ← match rest with
    | '.' :: rest =>
      let digits := rest.takeWhile Decimal.isDigit
      if digits.isEmpty then none else some (some digits, rest.dropWhile Decimal.isDigit)
    | rest => some (none, rest)
  let (exponent, rest) ← match rest with
    | 'e' :: rest => (exponent? rest).map fun (n, rest) => (some n, rest)
    | 'E' :: rest => (exponent? rest).map fun (n, rest) => (some n, rest)
    | rest => some (none, rest)
  return (ofNumeral negative whole fraction exponent, rest)

/-- An object with the given members, in reverse. A name that denotes no text makes the object
unreadable. -/
def ofMembers (members : List (Option String × Json)) : Json :=
  match members.reverse.mapM fun (name, value) => name.map fun name => (name, value) with
  | some members => .object members
  | none => .unreadable

/-- How many containers may lie within each other. -/
def mostNested : Nat := 127

/-- A container, where `room` more may lie within each other, itself included. -/
def within (room : Nat) (container : Json) : Json :=
  if room = 0 then .unreadable else container

mutual

/-- A value at the start of a text, and the text after it. The fuel bounds the number of steps, and
`room` is the number of containers that may lie within each other. -/
def value? : Nat → Nat → List Char → Option (Json × List Char)
  | 0, _, _ => none
  | fuel + 1, room, cs =>
    match skipSpacing cs with
    | 'n' :: 'u' :: 'l' :: 'l' :: rest => some (.null, rest)
    | 't' :: 'r' :: 'u' :: 'e' :: rest => some (.bool true, rest)
    | 'f' :: 'a' :: 'l' :: 's' :: 'e' :: rest => some (.bool false, rest)
    | '"' :: rest =>
      (quoted? rest).map fun (text, rest) =>
        (match text with | some s => .string s | none => .unreadable, rest)
    | '[' :: rest =>
      match skipSpacing rest with
      | ']' :: rest => some (within room (.array []), rest)
      | rest => arrayItems? fuel room [] rest
    | '\x7b' :: rest =>
      match skipSpacing rest with
      | '\x7d' :: rest => some (within room (.object []), rest)
      | rest => objectMembers? fuel room [] rest
    | '-' :: rest => magnitude? true rest
    | rest => magnitude? false rest

/-- The items of an array up to its closing bracket, after those in `acc`. -/
def arrayItems? : Nat → Nat → List Json → List Char → Option (Json × List Char)
  | 0, _, _, _ => none
  | fuel + 1, room, acc, cs =>
    match value? fuel (room - 1) cs with
    | none => none
    | some (item, rest) =>
      match skipSpacing rest with
      | ',' :: rest => arrayItems? fuel room (item :: acc) rest
      | ']' :: rest => some (within room (.array (item :: acc).reverse), rest)
      | _ => none

def objectMembers? :
    Nat → Nat → List (Option String × Json) → List Char → Option (Json × List Char)
  | 0, _, _, _ => none
  | fuel + 1, room, acc, cs =>
    match skipSpacing cs with
    | '"' :: rest =>
      match quoted? rest with
      | none => none
      | some (name, rest) =>
        match skipSpacing rest with
        | ':' :: rest =>
          match value? fuel (room - 1) rest with
          | none => none
          | some (value, rest) =>
            match skipSpacing rest with
            | ',' :: rest => objectMembers? fuel room ((name, value) :: acc) rest
            | '\x7d' :: rest => some (within room (ofMembers ((name, value) :: acc)), rest)
            | _ => none
        | _ => none
    | _ => none

end

/-- The value that a text consists of. Every step but the one into a container's first item uses up
a character, so twice as many steps as characters are enough. -/
def read? (text : String) : Option Json :=
  let cs := text.toList
  match value? (2 * cs.length + 2) mostNested cs with
  | some (value, rest) => if (skipSpacing rest).isEmpty then some value else none
  | none => none

end Json

end PriorArt
