import PriorArt.Number.Radix
import PriorArt.Provider.Head

/-!
# Framing of bodies

Where the body of a response ends. Some responses have none. Others have one that is sent in chunks
if the head says so, has the length that the head tells, or else goes on to the end of what is sent.

A chunk is a line with its size in hexadecimal, so many bytes, and a line break. After the chunk of
size zero there may be more headers, up to an empty line.
-/

namespace PriorArt

/-- How the end of a body is told. -/
inductive Framing where
  | empty
  | chunks
  | sized (length : Nat)
  | toEnd
  deriving DecidableEq

namespace Framing

/-! ## What a head tells -/

def isBodiless (status : Nat) : Bool :=
  status = 101 || status = 204 || status = 304

def codingName : String := "transfer-encoding"

def lengthName : String := "content-length"

def chunkedCoding : List Char := "chunked".toList

/-- The last of the codings in a value is that of chunks. -/
def isChunked (value : String) : Bool :=
  let last := (Text.splitAt (· = ',') value.toList).getLast?.getD []
  value.toList.all Headers.isPlain && (Head.trim last).map Char.toLower = chunkedCoding

def length? (cs : List Char) : Option Nat :=
  let digits := Head.trim cs
  if digits.all Decimal.isDigit then Decimal.word? digits else none

/-- The length that values tell, in each of which commas may divide several. All are to agree. -/
def commonLength? (values : List String) : Option Nat := do
  let lengths ← (values.flatMap fun value => Text.splitAt (· = ',') value.toList).mapM length?
  let first ← lengths.head?
  if lengths.all (· = first) then some first else none

def mostLength : Nat := Nat.pow 2 64 - 3

/-- The framing that a head tells, unless it contradicts itself. -/
def ofHead? (head : Head) : Option Framing :=
  if isBodiless head.status then some .empty
  else
    match (Head.valuesOf codingName head.headers).getLast?,
      Head.valuesOf lengthName head.headers with
    | some coding, _ =>
      if head.isOld then none else some (if isChunked coding then .chunks else .toEnd)
    | none, [] => some .toEnd
    | none, values => ((commonLength? values).filter (· ≤ mostLength)).map .sized

/-! ## Chunks -/

def take? (count : Nat) (bytes : List UInt8) : Option (List UInt8 × List UInt8) :=
  let taken := bytes.take count
  if taken.length = count then some (taken, bytes.drop count) else none

theorem append_of_take? {count : Nat} {bytes taken rest : List UInt8}
    (h : take? count bytes = some (taken, rest)) : taken ++ rest = bytes := by
  simp only [take?, Option.ite_none_right_eq_some, Option.some.injEq, Prod.mk.injEq] at h
  rw [← h.2.1, ← h.2.2, List.take_append_drop]

/-- The bytes before a line break of two characters, and those after it. -/
def brokenLine? (bytes : List UInt8) : Option (List UInt8 × List UInt8) :=
  match bytes.dropWhile (· ≠ Head.carriageReturn) with
  | _ :: second :: rest =>
    if second = Head.lineFeed then
      some (bytes.takeWhile (· ≠ Head.carriageReturn), rest)
    else none
  | _ => none

/-- The number of bytes that extend the line of a chunk after its size: a semicolon goes before
them. -/
def extension? (cs : List Char) : Option Nat :=
  match cs.dropWhile Head.isPadding with
  | [] => some 0
  | c :: cs => if c = ';' && !cs.contains '\n' then some cs.length else none

def size? (line : List Char) : Option (Nat × Nat) := do
  let digits := line.takeWhile (Radix.isDigit 16)
  let size := Radix.ofDigits 16 digits
  let extension ← extension? (line.drop digits.length)
  if digits.isEmpty || Nat.pow 2 64 ≤ size then none else some (size, extension)

/-- The lines before the first empty one, at most so many. -/
def linesBeforeEmpty? : Nat → List UInt8 → Option (List (List UInt8))
  | most, bytes =>
    match brokenLine? bytes, most with
    | some ([], _), _ => some []
    | some (line, rest), most + 1 => (linesBeforeEmpty? most rest).map (line :: ·)
    | _, _ => none

/-- The number of bytes that lines after the last chunk may not reach, and that what extends the
lines of chunks may not reach. -/
def tooMany : Nat := 16384

def mostLines : Nat := 99

/-- The bytes after the last chunk begin with headers, as many as there are lines, and an empty
line, or with an empty line alone. -/
def endsHeaders (bytes : List UInt8) : Bool :=
  match linesBeforeEmpty? mostLines bytes with
  | none => false
  | some [] => true
  | some lines =>
    let lineBreak := [Head.carriageReturn, Head.lineFeed]
    let text := lines.flatMap (· ++ lineBreak) ++ lineBreak
    text.length < tooMany && (Head.headers? lines.length text).isSome

/-- The bytes that are sent in chunks, after those of the chunks that have been read, the last one
first, given the number of bytes that extended their lines. The fuel bounds the number of chunks. -/
def chunks? : Nat → Nat → List (List UInt8) → List UInt8 → Option (List UInt8)
  | 0, _, _, _ => none
  | fuel + 1, extended, done, bytes => do
    let (line, bytes) ← brokenLine? bytes
    let (size, extension) ← size? (Head.chars line)
    let extended := extended + extension
    if tooMany ≤ extended then none
    else if size = 0 then
      if endsHeaders bytes then some done.reverse.flatten else none
    else
      let (chunk, bytes) ← take? size bytes
      let ([], bytes) ← brokenLine? bytes | none
      chunks? fuel extended (chunk :: done) bytes

def inChunk (bytes : List UInt8) : List UInt8 :=
  let lineBreak := [Head.carriageReturn, Head.lineFeed]
  let size := ((Nat.toDigits 16 bytes.length).map fun c => UInt8.ofNat c.toUpper.toNat)
  size ++ lineBreak ++ bytes ++ lineBreak ++ UInt8.ofNat '0'.toNat :: lineBreak ++ lineBreak

/-! ## Bodies -/

def body? (framing : Framing) (bytes : List UInt8) : Option (List UInt8) :=
  match framing with
  | .empty => some []
  | .chunks => chunks? (bytes.length + 1) 0 [] bytes
  | .sized length => (take? length bytes).map (·.1)
  | .toEnd => some bytes

end Framing

end PriorArt
