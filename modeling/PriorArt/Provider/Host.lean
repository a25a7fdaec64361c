import PriorArt.Number.Decimal
import PriorArt.Number.Radix
import PriorArt.Provider.Percent
import PriorArt.Text.Blank
import PriorArt.Text.Ranges
import PriorArt.Text.Utf8

/-!
# Hosts

The host of an address is a number of 32 or of 128 bits, or a name that the network is to know. The
number of 32 bits has many spellings: with one part to four, in three radices, with percent signs,
and in characters that only look like digits.
-/

namespace PriorArt

/-- A host: its name, its number of 32 bits, or one of 128 bits as it is written between
brackets. -/
inductive Host where
  | name (text : String)
  | number (value : Nat)
  | groups (text : String)
  deriving DecidableEq

namespace Host

/-! ## Characters -/

/-- A run of characters that stand for texts: the first one for the given text, and each of the
others for the character as far behind that of the text as it is behind the first one. -/
structure Lookalikes where
  first : Nat
  count : Nat
  text : String

/-- The characters beyond ASCII that stand for what a number may consist of. -/
def lookalikes : List Lookalikes :=
  [⟨0xAA, 1, "a"⟩, ⟨0xB2, 2, "2"⟩, ⟨0xB9, 1, "1"⟩, ⟨0x2E3, 1, "x"⟩, ⟨0x1D2C, 1, "a"⟩,
   ⟨0x1D2E, 1, "b"⟩, ⟨0x1D30, 2, "d"⟩, ⟨0x1D43, 1, "a"⟩, ⟨0x1D47, 1, "b"⟩, ⟨0x1D48, 2, "d"⟩,
   ⟨0x1D9C, 1, "c"⟩, ⟨0x1DA0, 1, "f"⟩, ⟨0x2070, 1, "0"⟩, ⟨0x2074, 6, "4"⟩, ⟨0x2080, 10, "0"⟩,
   ⟨0x2090, 1, "a"⟩, ⟨0x2091, 1, "e"⟩, ⟨0x2093, 1, "x"⟩, ⟨0x2102, 1, "c"⟩, ⟨0x212C, 2, "b"⟩,
   ⟨0x212F, 1, "e"⟩, ⟨0x2130, 2, "e"⟩, ⟨0x213B, 1, "fax"⟩, ⟨0x2145, 1, "d"⟩, ⟨0x2146, 2, "d"⟩,
   ⟨0x2169, 1, "x"⟩, ⟨0x216D, 2, "c"⟩, ⟨0x2179, 1, "x"⟩, ⟨0x217D, 2, "c"⟩, ⟨0x2460, 9, "1"⟩,
   ⟨0x2469, 1, "10"⟩, ⟨0x246A, 1, "11"⟩, ⟨0x246B, 1, "12"⟩, ⟨0x246C, 1, "13"⟩, ⟨0x246D, 1, "14"⟩,
   ⟨0x246E, 1, "15"⟩, ⟨0x246F, 1, "16"⟩, ⟨0x2470, 1, "17"⟩, ⟨0x2471, 1, "18"⟩, ⟨0x2472, 1, "19"⟩,
   ⟨0x2473, 1, "20"⟩, ⟨0x24B6, 6, "a"⟩, ⟨0x24CD, 1, "x"⟩, ⟨0x24D0, 6, "a"⟩, ⟨0x24E7, 1, "x"⟩,
   ⟨0x24EA, 1, "0"⟩, ⟨0x3002, 1, "."⟩, ⟨0x3251, 1, "21"⟩, ⟨0x3252, 1, "22"⟩, ⟨0x3253, 1, "23"⟩,
   ⟨0x3254, 1, "24"⟩, ⟨0x3255, 1, "25"⟩, ⟨0x3256, 1, "26"⟩, ⟨0x3257, 1, "27"⟩, ⟨0x3258, 1, "28"⟩,
   ⟨0x3259, 1, "29"⟩, ⟨0x325A, 1, "30"⟩, ⟨0x325B, 1, "31"⟩, ⟨0x325C, 1, "32"⟩, ⟨0x325D, 1, "33"⟩,
   ⟨0x325E, 1, "34"⟩, ⟨0x325F, 1, "35"⟩, ⟨0x32B1, 1, "36"⟩, ⟨0x32B2, 1, "37"⟩, ⟨0x32B3, 1, "38"⟩,
   ⟨0x32B4, 1, "39"⟩, ⟨0x32B5, 1, "40"⟩, ⟨0x32B6, 1, "41"⟩, ⟨0x32B7, 1, "42"⟩, ⟨0x32B8, 1, "43"⟩,
   ⟨0x32B9, 1, "44"⟩, ⟨0x32BA, 1, "45"⟩, ⟨0x32BB, 1, "46"⟩, ⟨0x32BC, 1, "47"⟩, ⟨0x32BD, 1, "48"⟩,
   ⟨0x32BE, 1, "49"⟩, ⟨0x32BF, 1, "50"⟩, ⟨0x3372, 1, "da"⟩, ⟨0x33C4, 1, "cc"⟩, ⟨0x33C5, 1, "cd"⟩,
   ⟨0x33C8, 1, "db"⟩, ⟨0xA7F2, 1, "c"⟩, ⟨0xA7F3, 1, "f"⟩, ⟨0xFB00, 1, "ff"⟩, ⟨0xFF0E, 1, "."⟩,
   ⟨0xFF10, 10, "0"⟩, ⟨0xFF21, 6, "a"⟩, ⟨0xFF38, 1, "x"⟩, ⟨0xFF41, 6, "a"⟩, ⟨0xFF58, 1, "x"⟩,
   ⟨0xFF61, 1, "."⟩, ⟨0x1D400, 6, "a"⟩, ⟨0x1D417, 1, "x"⟩, ⟨0x1D41A, 6, "a"⟩, ⟨0x1D431, 1, "x"⟩,
   ⟨0x1D434, 6, "a"⟩, ⟨0x1D44B, 1, "x"⟩, ⟨0x1D44E, 6, "a"⟩, ⟨0x1D465, 1, "x"⟩, ⟨0x1D468, 6, "a"⟩,
   ⟨0x1D47F, 1, "x"⟩, ⟨0x1D482, 6, "a"⟩, ⟨0x1D499, 1, "x"⟩, ⟨0x1D49C, 1, "a"⟩, ⟨0x1D49E, 2, "c"⟩,
   ⟨0x1D4B3, 1, "x"⟩, ⟨0x1D4B6, 4, "a"⟩, ⟨0x1D4BB, 1, "f"⟩, ⟨0x1D4CD, 1, "x"⟩, ⟨0x1D4D0, 6, "a"⟩,
   ⟨0x1D4E7, 1, "x"⟩, ⟨0x1D4EA, 6, "a"⟩, ⟨0x1D501, 1, "x"⟩, ⟨0x1D504, 2, "a"⟩, ⟨0x1D507, 3, "d"⟩,
   ⟨0x1D51B, 1, "x"⟩, ⟨0x1D51E, 6, "a"⟩, ⟨0x1D535, 1, "x"⟩, ⟨0x1D538, 2, "a"⟩, ⟨0x1D53B, 3, "d"⟩,
   ⟨0x1D54F, 1, "x"⟩, ⟨0x1D552, 6, "a"⟩, ⟨0x1D569, 1, "x"⟩, ⟨0x1D56C, 6, "a"⟩, ⟨0x1D583, 1, "x"⟩,
   ⟨0x1D586, 6, "a"⟩, ⟨0x1D59D, 1, "x"⟩, ⟨0x1D5A0, 6, "a"⟩, ⟨0x1D5B7, 1, "x"⟩, ⟨0x1D5BA, 6, "a"⟩,
   ⟨0x1D5D1, 1, "x"⟩, ⟨0x1D5D4, 6, "a"⟩, ⟨0x1D5EB, 1, "x"⟩, ⟨0x1D5EE, 6, "a"⟩, ⟨0x1D605, 1, "x"⟩,
   ⟨0x1D608, 6, "a"⟩, ⟨0x1D61F, 1, "x"⟩, ⟨0x1D622, 6, "a"⟩, ⟨0x1D639, 1, "x"⟩, ⟨0x1D63C, 6, "a"⟩,
   ⟨0x1D653, 1, "x"⟩, ⟨0x1D656, 6, "a"⟩, ⟨0x1D66D, 1, "x"⟩, ⟨0x1D670, 6, "a"⟩, ⟨0x1D687, 1, "x"⟩,
   ⟨0x1D68A, 6, "a"⟩, ⟨0x1D6A1, 1, "x"⟩, ⟨0x1D7CE, 10, "0"⟩, ⟨0x1D7D8, 10, "0"⟩,
   ⟨0x1D7E2, 10, "0"⟩, ⟨0x1D7EC, 10, "0"⟩, ⟨0x1D7F6, 10, "0"⟩, ⟨0x1F12B, 1, "c"⟩,
   ⟨0x1F12D, 1, "cd"⟩, ⟨0x1F130, 6, "a"⟩, ⟨0x1F147, 1, "x"⟩, ⟨0x1FBF0, 10, "0"⟩]

/-- Characters that stand for nothing in a name. -/
def unseen : List Text.CodeRange :=
  [(0xAD, 0xAD), (0x34F, 0x34F), (0x180B, 0x180D), (0x180F, 0x180F), (0x200B, 0x200B),
   (0x2060, 0x2060), (0x2064, 0x2064), (0xFE00, 0xFE0F), (0xFEFF, 0xFEFF), (0x1BCA0, 0x1BCA3),
   (0xE0100, 0xE01EF)]

/-- What a character stands for in the name of a host. Letters that cannot belong to a number are
left to the network. -/
def plain (c : Char) : List Char :=
  if c.toNat < 128 then [c.toLower]
  else if Text.inRanges unseen c then []
  else
    match lookalikes.find? fun run => run.first ≤ c.toNat && c.toNat < run.first + run.count with
    | some run => run.text.toList.map fun d => Char.ofNat (d.toNat + (c.toNat - run.first))
    | none => [c]

def isHostChar (c : Char) : Bool :=
  !(c ≤ ' ' || c = '\x7f' ||
    ['#', '%', '/', ':', '<', '>', '?', '@', '[', '\\', ']', '^', '|'].contains c)

/-! ## Numbers -/

/-- A number in a host: hexadecimal after `0x`, octal after `0`, else decimal. -/
def number? (part : List Char) : Option Nat :=
  let (radix, digits) := match part with
    | '0' :: 'x' :: digits => (16, digits)
    | '0' :: 'X' :: digits => (16, digits)
    | '0' :: digit :: digits => (8, digit :: digits)
    | digits => (10, digits)
  if part.isEmpty || !digits.all (Radix.isDigit radix) then none
  else some (Radix.ofDigits radix digits)

/-- The parts of a host that points divide. A point at the end is no part of it. -/
def hostParts (host : List Char) : List (List Char) :=
  let parts := Text.splitAt (· = '.') host
  if parts.getLast? = some [] then parts.dropLast else parts

/-- The host is to be read as a number of 32 bits. -/
def endsInNumber (host : List Char) : Bool :=
  match (hostParts host).getLast? with
  | some part =>
    (!part.isEmpty && part.all Decimal.isDigit) || (number? part).isSome
  | none => false

/-- The number of 32 bits that at most four numbers make up: each but the last has one byte, and the
last one has the bytes that are left. -/
def ofParts? (host : List Char) : Option Nat := do
  let numbers ← (hostParts host).mapM number?
  let last ← numbers.getLast?
  let bytes := numbers.dropLast
  if 3 < bytes.length || !bytes.all (· < 256) || Nat.pow 256 (4 - bytes.length) ≤ last then none
  return bytes.foldl (fun n byte => n * 256 + byte) 0 * Nat.pow 256 (4 - bytes.length) + last

/-! ## Groups -/

/-- A byte in decimal, without zeros before it. -/
def isByte (part : List Char) : Bool :=
  !part.isEmpty && part.all Decimal.isDigit && Decimal.ofDigits part < 256 &&
    (part.length = 1 || part.head? ≠ some '0')

def isQuad (cs : List Char) : Bool :=
  let parts := Text.splitAt (· = '.') cs
  parts.length = 4 && parts.all isByte

def isGroup (cs : List Char) : Bool :=
  1 ≤ cs.length && cs.length ≤ 4 && cs.all (Radix.isDigit 16)

/-- The number of groups of sixteen bits in groups with colons between them. Four bytes at the end
of an address make up two groups. -/
def groups? (isEnd : Bool) (cs : List Char) : Option Nat :=
  let parts := Text.splitAt (· = ':') cs
  match cs, parts.getLast? with
  | [], _ => some 0
  | _, some last =>
    if !parts.dropLast.all isGroup then none
    else if isGroup last then some parts.length
    else if isEnd && isQuad last then some (parts.length + 1)
    else none
  | _, none => none

/-- The text before and after the first two colons in a row. -/
def atGap? : List Char → Option (List Char × List Char)
  | ':' :: ':' :: cs => some ([], cs)
  | c :: cs => (atGap? cs).map fun (before, after) => (c :: before, after)
  | [] => none

/-- Eight groups of sixteen bits, where two colons may stand for groups of zeros. -/
def isGroups (cs : List Char) : Bool :=
  match atGap? cs with
  | none => groups? true cs = some 8
  | some (before, after) =>
    match groups? false before, groups? true after with
    | some m, some n => m + n ≤ 7
    | _, _ => false

/-! ## Hosts -/

def read? (cs : List Char) : Option Host :=
  match cs, cs.getLast? with
  | '[' :: rest, some ']' =>
    let inner := rest.dropLast
    if isGroups inner then some (.groups (String.ofList inner)) else none
  | _, _ => do
    let text ← Utf8.decode? (Percent.decode cs)
    let name := text.toList.flatMap plain
    if name.isEmpty || !name.all isHostChar then none
    else if endsInNumber name then (ofParts? name).map .number
    else some (.name (String.ofList name))

def text : Host → String
  | .name text => text
  | .number n =>
    ".".intercalate ([n / 16777216, n / 65536 % 256, n / 256 % 256, n % 256].map toString)
  | .groups text => "[" ++ text ++ "]"

end Host

end PriorArt
