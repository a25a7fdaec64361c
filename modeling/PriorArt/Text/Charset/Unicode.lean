import PriorArt.Text.Charset.Basic

/-!
# Codings of Unicode

UTF-8 and the two orders of bytes of UTF-16. Bytes that begin like those of a character but do not
go on like it count as one substitute, as far as they do.
-/

namespace PriorArt.Coding

/-! ## UTF-8 -/

/-- The number of bytes that follow a first byte, and the range of the one that follows it at
once. -/
def trailOf? (lead : UInt8) : Option (Nat × UInt8 × UInt8) :=
  if lead < 0xC2 then none
  else if lead < 0xE0 then some (1, 0x80, 0xBF)
  else if lead = 0xE0 then some (2, 0xA0, 0xBF)
  else if lead = 0xED then some (2, 0x80, 0x9F)
  else if lead < 0xF0 then some (2, 0x80, 0xBF)
  else if lead = 0xF0 then some (3, 0x90, 0xBF)
  else if lead < 0xF4 then some (3, 0x80, 0xBF)
  else if lead = 0xF4 then some (3, 0x80, 0x8F)
  else none

/-- The bytes that go on a character: at most so many, the first of them in a range and the others
in the range of all bytes that are not the first. -/
def trail : Nat → UInt8 × UInt8 → List UInt8 → List UInt8
  | count + 1, (least, most), byte :: bytes =>
    if least ≤ byte && byte ≤ most then byte :: trail count (0x80, 0xBF) bytes else []
  | _, _, _ => []

/-- The bits that a first byte with so many bytes after it has for the number of its character. -/
def leadBits (count : Nat) (lead : UInt8) : Nat :=
  lead.toNat % Nat.pow 2 (6 - count)

def utf8 : Coding :=
  extending fun lead bytes =>
    match trailOf? lead with
    | none => .bad 0
    | some (count, range) =>
      let trail := trail count range bytes
      if trail.length = count then
        let number := trail.foldl (fun n byte => n * 64 + byte.toNat % 64) (leadBits count lead)
        .char (Char.ofNat number) count
      else .bad trail.length

/-! ## UTF-16 -/

def isHighUnit (n : Nat) : Bool :=
  0xD800 ≤ n && n < 0xDC00

def isLowUnit (n : Nat) : Bool :=
  0xDC00 ≤ n && n < 0xE000

def unit (bigEndian : Bool) (first second : UInt8) : Nat :=
  if bigEndian then first.toNat * 256 + second.toNat else second.toNat * 256 + first.toNat

/-- UTF-16 with the greater or the lesser byte of each unit first. A high and a low unit make up a
character together. -/
def utf16 (bigEndian : Bool) : Coding
  | _, [] => .bad 0
  | a, b :: bytes =>
    let high := unit bigEndian a b
    if isLowUnit high then .bad 1
    else if isHighUnit high then
      match bytes with
      | c :: d :: _ =>
        let low := unit bigEndian c d
        if isLowUnit low then
          .char (Char.ofNat (0x10000 + (high - 0xD800) * 1024 + (low - 0xDC00))) 3
        else .bad 1
      | _ => .bad (bytes.length + 1)
    else .char (Char.ofNat high) 1

end PriorArt.Coding
