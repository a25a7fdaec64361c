import PriorArt.Json.Basic
import PriorArt.Number.Decimal
import PriorArt.Number.Radix
import PriorArt.Toml.Moment

/-!
# TOML keys and scalars

The parts of a TOML text that hold no other values: keys, strings, numbers, truth values and dates.
Each reader gives what it read and the text after it.

## Outline

1. Strings, in four forms.
2. Keys.
3. Numbers.

Dates and times have a module of their own.
-/

namespace PriorArt.Toml

/-- A control character other than the tab, of which neither a string nor a comment holds any. -/
def isControl (c : Char) : Bool :=
  (c < ' ' && c ≠ '\t') || c = '\x7f'

/-- A character that may separate tokens within a line. -/
def isBlank (c : Char) : Bool :=
  c = ' ' || c = '\t'

def skipBlanks (cs : List Char) : List Char :=
  cs.dropWhile isBlank

/-! ## Strings -/

def escape? (c : Char) : Option Char :=
  match c with
  | 'b' => some '\x08'
  | 't' => some '\t'
  | 'n' => some '\n'
  | 'f' => some '\x0c'
  | 'r' => some '\r'
  | 'e' => some '\x1b'
  | '"' => some '"'
  | '\\' => some '\\'
  | _ => none

/-- The character whose code point is given by hexadecimal digits. -/
def coded? (digits : List Char) : Option Char :=
  let n := Radix.ofDigits 16 digits
  if digits.all (Radix.isDigit 16) && n.isValidChar then some (Char.ofNat n) else none

/-- The character that an escape stands for, and the text after it. The backslash has been read. -/
def escaped? : List Char → Option (Char × List Char)
  | 'x' :: cs => if 2 ≤ cs.length then (coded? (cs.take 2)).map (·, cs.drop 2) else none
  | 'u' :: cs => if 4 ≤ cs.length then (coded? (cs.take 4)).map (·, cs.drop 4) else none
  | 'U' :: cs => if 8 ≤ cs.length then (coded? (cs.take 8)).map (·, cs.drop 8) else none
  | c :: cs => (escape? c).map (·, cs)
  | [] => none

/-- A string in double quotes, of which the opening one has been read. The characters in `acc`, in
reverse, come first. The fuel bounds the number of characters. -/
def basic? : Nat → List Char → List Char → Option (String × List Char)
  | 0, _, _ => none
  | fuel + 1, acc, cs =>
    match cs with
    | '"' :: cs => some (String.ofList acc.reverse, cs)
    | '\\' :: cs =>
      match escaped? cs with
      | some (c, cs) => basic? fuel (c :: acc) cs
      | none => none
    | c :: cs => if isControl c then none else basic? fuel (c :: acc) cs
    | [] => none

def skipBreaks : List Char → List Char
  | ' ' :: cs => skipBreaks cs
  | '\t' :: cs => skipBreaks cs
  | '\n' :: cs => skipBreaks cs
  | '\r' :: '\n' :: cs => skipBreaks cs
  | cs => cs

/-- The text after a backslash at the end of a line, which joins the line with the next one that is
not empty. -/
def joined? (cs : List Char) : Option (List Char) :=
  match skipBlanks cs with
  | '\n' :: cs => some (skipBreaks cs)
  | '\r' :: '\n' :: cs => some (skipBreaks cs)
  | _ => none

/-- A string between triple double quotes, of which the opening ones have been read. Up to two more
quotes before the closing ones belong to the string. -/
def basicBlock? : Nat → List Char → List Char → Option (String × List Char)
  | 0, _, _ => none
  | fuel + 1, acc, cs =>
    match cs with
    | '"' :: '"' :: '"' :: '"' :: '"' :: cs =>
      some (String.ofList ('"' :: '"' :: acc).reverse, cs)
    | '"' :: '"' :: '"' :: '"' :: cs => some (String.ofList ('"' :: acc).reverse, cs)
    | '"' :: '"' :: '"' :: cs => some (String.ofList acc.reverse, cs)
    | '\\' :: cs =>
      match joined? cs, escaped? cs with
      | some cs, _ => basicBlock? fuel acc cs
      | none, some (c, cs) => basicBlock? fuel (c :: acc) cs
      | none, none => none
    | '\n' :: cs => basicBlock? fuel ('\n' :: acc) cs
    | '\r' :: '\n' :: cs => basicBlock? fuel ('\n' :: '\r' :: acc) cs
    | c :: cs => if isControl c then none else basicBlock? fuel (c :: acc) cs
    | [] => none

/-- A string in single quotes, of which the opening one has been read. -/
def literal? (acc : List Char) : List Char → Option (String × List Char)
  | [] => none
  | '\x27' :: cs => some (String.ofList acc.reverse, cs)
  | c :: cs => if isControl c then none else literal? (c :: acc) cs

/-- A string between triple single quotes, of which the opening ones have been read. Up to two more
quotes before the closing ones belong to the string. -/
def literalBlock? (acc : List Char) : List Char → Option (String × List Char)
  | [] => none
  | '\x27' :: '\x27' :: '\x27' :: '\x27' :: '\x27' :: cs =>
    some (String.ofList ('\x27' :: '\x27' :: acc).reverse, cs)
  | '\x27' :: '\x27' :: '\x27' :: '\x27' :: cs => some (String.ofList ('\x27' :: acc).reverse, cs)
  | '\x27' :: '\x27' :: '\x27' :: cs => some (String.ofList acc.reverse, cs)
  | '\n' :: cs => literalBlock? ('\n' :: acc) cs
  | '\r' :: '\n' :: cs => literalBlock? ('\n' :: '\r' :: acc) cs
  | c :: cs => if isControl c then none else literalBlock? (c :: acc) cs

/-- The text without a line break at its start, which does not belong to a block. -/
def skipBreak : List Char → List Char
  | '\n' :: cs => cs
  | '\r' :: '\n' :: cs => cs
  | cs => cs

def string? : List Char → Option (String × List Char)
  | '"' :: '"' :: '"' :: cs => basicBlock? (cs.length + 1) [] (skipBreak cs)
  | '"' :: cs => basic? (cs.length + 1) [] cs
  | '\x27' :: '\x27' :: '\x27' :: cs => literalBlock? [] (skipBreak cs)
  | '\x27' :: cs => literal? [] cs
  | _ => none

/-! ## Keys -/

def isBare (c : Char) : Bool :=
  c.isAlphanum || c = '_' || c = '-'

def keyPart? : List Char → Option (String × List Char)
  | '"' :: cs => basic? (cs.length + 1) [] cs
  | '\x27' :: cs => literal? [] cs
  | cs =>
    let bare := cs.takeWhile isBare
    if bare.isEmpty then none else some (String.ofList bare, cs.dropWhile isBare)

def keyParts? : Nat → List Char → Option (List String × List Char)
  | 0, _ => none
  | fuel + 1, cs =>
    match keyPart? (skipBlanks cs) with
    | none => none
    | some (part, cs) =>
      match skipBlanks cs with
      | '.' :: cs =>
        match keyParts? fuel cs with
        | some (parts, cs) => some (part :: parts, cs)
        | none => none
      | cs => some ([part], cs)

/-- The greatest depth of what one key or one value spells: the parts of a key, and the arrays and
inline tables inside one another. -/
def deepest : Nat := 80

def key? (cs : List Char) : Option (List String × List Char) :=
  (keyParts? (cs.length + 1) cs).filter fun (parts, _) => parts.length ≤ deepest

/-! ## Numbers -/

/-- The text consists of digits, at least one, with single underscores between some of them. -/
def isGrouped (radix : Nat) : List Char → Bool
  | [] => false
  | [c] => Radix.isDigit radix c
  | c :: '_' :: cs => Radix.isDigit radix c && isGrouped radix cs
  | c :: cs => Radix.isDigit radix c && isGrouped radix cs

/-- Digits of a radix without the underscores between them. -/
def digits? (radix : Nat) (cs : List Char) : Option (List Char × List Char) :=
  let inGroup (c : Char) : Bool := Radix.isDigit radix c || c = '_'
  let group := cs.takeWhile inGroup
  if isGrouped radix group then some (group.filter (· ≠ '_'), cs.dropWhile inGroup) else none

/-- A whole number. One of more than 64 bits is well formed but cannot be read, one of more than
128 bits is not well formed. -/
def whole? (i : Int) : Option Json :=
  if -(Nat.pow 2 63 : Int) ≤ i && i < (Nat.pow 2 64 : Int) then some (.int i)
  else if -(Nat.pow 2 127 : Int) ≤ i && i < (Nat.pow 2 128 : Int) then some .unreadable
  else none

def ofRadix? (radix : Nat) (cs : List Char) : Option (Json × List Char) := do
  let (digits, rest) ← digits? radix cs
  return (← whole? (Radix.ofDigits radix digits), rest)

def exponent? (cs : List Char) : Option (Int × List Char) := do
  let (negative, cs) := match cs with
    | '+' :: cs => (false, cs)
    | '-' :: cs => (true, cs)
    | cs => (false, cs)
  let (digits, rest) ← digits? 10 cs
  let n : Int := Decimal.ofDigits digits
  return (if negative then -n else n, rest)

/-- A decimal number after its sign. It is a float if it has a point or an exponent, and then it
must not be too large. -/
def decimal? (negative : Bool) (cs : List Char) : Option (Json × List Char) := do
  let (whole, rest) ← digits? 10 cs
  if 1 < whole.length && whole.head? = some '0' then none
  let (fraction, rest) ← match rest with
    | '.' :: rest => (digits? 10 rest).map fun (digits, rest) => (some digits, rest)
    | rest => some (none, rest)
  let (exponent, rest) ← match rest with
    | 'e' :: rest => (exponent? rest).map fun (n, rest) => (some n, rest)
    | 'E' :: rest => (exponent? rest).map fun (n, rest) => (some n, rest)
    | rest => some (none, rest)
  match fraction, exponent with
  | none, none =>
    let n : Int := Decimal.ofDigits whole
    return (← whole? (if negative then -n else n), rest)
  | _, _ =>
    let digits := fraction.getD []
    let x := Decimal.nearest negative (Decimal.ofDigits (whole ++ digits))
      (exponent.getD 0 - digits.length)
    if x.isFinite then return (.float x, rest) else none

def signed? (negative : Bool) : List Char → Option (Json × List Char)
  | 'i' :: 'n' :: 'f' :: rest => some (.float (.infinite negative), rest)
  | 'n' :: 'a' :: 'n' :: rest => some (.float .nan, rest)
  | cs => decimal? negative cs

def number? : List Char → Option (Json × List Char)
  | '+' :: cs => signed? false cs
  | '-' :: cs => signed? true cs
  | '0' :: 'x' :: cs => ofRadix? 16 cs
  | '0' :: 'o' :: cs => ofRadix? 8 cs
  | '0' :: 'b' :: cs => ofRadix? 2 cs
  | cs => signed? false cs

/-! ## Scalars -/

def scalar? (cs : List Char) : Option (Json × List Char) :=
  match cs with
  | 't' :: 'r' :: 'u' :: 'e' :: rest => some (.bool true, rest)
  | 'f' :: 'a' :: 'l' :: 's' :: 'e' :: rest => some (.bool false, rest)
  | '"' :: _ => (string? cs).map fun (s, rest) => (.string s, rest)
  | '\x27' :: _ => (string? cs).map fun (s, rest) => (.string s, rest)
  | _ => (moment? cs).or (number? cs)

end PriorArt.Toml
