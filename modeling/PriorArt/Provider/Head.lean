import PriorArt.Provider.Header

/-!
# Heads of responses

A response begins with a line that has its status, and lines with a header each, up to an empty one.
A header may come more than once. The text of a value is kept with a character for each byte.
-/

namespace PriorArt

/-- The head of a response: whether it is of an old version, its status and its headers. -/
structure Head where
  isOld : Bool
  status : Nat
  headers : Headers
  deriving DecidableEq

namespace Head

/-! ## Lines -/

def lineFeed : UInt8 := 0x0A

def carriageReturn : UInt8 := 0x0D

/-- A line, which may have a carriage return before its line feed, and the bytes after it. -/
def line? (bytes : List UInt8) : Option (List UInt8 × List UInt8) :=
  match bytes.dropWhile (· ≠ lineFeed) with
  | [] => none
  | _ :: rest =>
    let line := bytes.takeWhile (· ≠ lineFeed)
    some (if line.getLast? = some carriageReturn then line.dropLast else line, rest)

theorem length_of_line? {bytes line rest : List UInt8} (h : line? bytes = some (line, rest)) :
    rest.length < bytes.length := by
  unfold line? at h
  split at h
  · simp at h
  · next c after split =>
    simp only [Option.some.injEq, Prod.mk.injEq] at h
    have shorter := (List.dropWhile_sublist (· ≠ lineFeed) (l := bytes)).length_le
    rw [split, List.length_cons, h.2] at shorter
    omega

/-- The characters of a line, one for each byte. -/
def chars (line : List UInt8) : List Char :=
  line.map fun byte => Char.ofNat byte.toNat

/-! ## Headers -/

/-- A space or tab, which may stand around the value of a header. -/
def isPadding (c : Char) : Bool :=
  c = ' ' || c = '\t'

def trim (cs : List Char) : List Char :=
  Text.dropEndWhile isPadding (cs.dropWhile isPadding)

/-- The header in a line: a name in lower case and a value. -/
def header? (line : List Char) : Option (String × String) := do
  let name ← (Headers.name? (String.ofList (line.takeWhile (· ≠ ':')))).toOption
  let ':' :: value := line.dropWhile (· ≠ ':') | none
  if value.all Headers.isValueChar then some (name, String.ofList (trim value)) else none

def mostHeaders : Nat := 100

def headers? : Nat → List UInt8 → Option (Headers × List UInt8)
  | most, bytes => do
    let (line, rest) ← line? bytes
    match line, most with
    | [], _ => return ([], rest)
    | _, 0 => none
    | line, most + 1 =>
      let header ← header? (chars line)
      let (headers, rest) ← headers? most rest
      return (header :: headers, rest)

def valuesOf (name : String) (headers : Headers) : List String :=
  (headers.filter fun header => header.1 = name).map (·.2)

/-! ## Statuses -/

/-- The versions that a status line may begin with, and whether they are old. -/
def versions : List (String × Bool) :=
  [("HTTP/1.0 ", true), ("HTTP/1.1 ", false)]

/-- A status is a number of three digits, of which the first is not zero. -/
def leastStatus : Nat := 100

/-- What a status line tells: whether its version is old, and the status. A reason may follow. -/
def status? (line : List Char) : Option (Bool × Nat) := do
  let (version, isOld) ← versions.find? fun version => version.1.toList.isPrefixOf line
  let rest := line.drop version.length
  let digits := rest.take 3
  let status := Decimal.ofDigits digits
  let isReason := match rest.drop 3 with
    | [] => true
    | c :: reason => c = ' ' && reason.all Headers.isValueChar
  if digits.length = 3 && digits.all Decimal.isDigit && leastStatus ≤ status && isReason then
    some (isOld, status)
  else none

/-! ## Heads -/

/-- The first line that is not empty, and the bytes after it. -/
def statusLine? (bytes : List UInt8) : Option (List UInt8 × List UInt8) :=
  match _h : line? bytes with
  | none => none
  | some ([], rest) => statusLine? rest
  | some (line, rest) => some (line, rest)
termination_by bytes.length
decreasing_by exact length_of_line? _h

def mostBytes : Nat := 417792

def read? (bytes : List UInt8) : Option (Head × List UInt8) := do
  let (line, rest) ← statusLine? bytes
  let (isOld, status) ← status? (chars line)
  let (headers, rest) ← headers? mostHeaders rest
  if mostBytes < bytes.length - rest.length then none
  return (⟨isOld, status, headers⟩, rest)

end Head

end PriorArt
