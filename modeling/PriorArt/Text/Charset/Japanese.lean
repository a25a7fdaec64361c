import PriorArt.Text.Charset.Basic
import PriorArt.Text.Charset.JisX0208
import PriorArt.Text.Charset.JisX0212

/-!
# Codings of Japanese writing

Shift_JIS and EUC-JP, which extend ASCII, and ISO-2022-JP, in which the bytes after an escape stand
for the characters of another set.
-/

namespace PriorArt.Coding

open Charset

/-- The half-width form of a phonetic sign, of which those from 0xA1 to 0xDF are in bytes. -/
def halfWidth (byte : UInt8) : Char :=
  Char.ofNat (0xFF61 + (byte.toNat - 0xA1))

def isHalfWidth (byte : UInt8) : Bool :=
  0xA1 ≤ byte && byte ≤ 0xDF

/-! ## Shift_JIS -/

/-- The first and the last place of Shift_JIS that are for private use. -/
def privatePlaces : Nat × Nat := (8836, 10715)

/-- The character of two bytes of Shift_JIS: each first byte covers two rows of the grid. -/
def shiftJisChar? (lead trail : UInt8) : Option Char :=
  let row := lead.toNat - if lead < 0xA0 then 0x81 else 0xC1
  let cell := trail.toNat - if trail < 0x7F then 0x40 else 0x41
  let place := row * 188 + cell
  if (0x40 ≤ trail && trail ≤ 0x7E) || (0x80 ≤ trail && trail ≤ 0xFC) then
    if privatePlaces.1 ≤ place && place ≤ privatePlaces.2 then
      some (Char.ofNat (0xE000 + (place - privatePlaces.1)))
    else jisX0208.at? place
  else none

def shiftJis : Coding :=
  extending fun lead bytes =>
    if lead = 0x80 then .char '\x80' 0
    else if isHalfWidth lead then .char (halfWidth lead) 0
    else if (0x81 ≤ lead && lead ≤ 0x9F) || (0xE0 ≤ lead && lead ≤ 0xFC) then
      pair (fun lead trail => (shiftJisChar? lead trail).map ([·])) lead bytes
    else .bad 0

/-! ## EUC-JP -/

def eucJpChar? (lead trail : UInt8) : Option Char :=
  if lead = 0x8E then
    if isHalfWidth trail then some (halfWidth trail) else none
  else jisX0208.ofHigh? lead trail

/-- EUC-JP. The byte 0x8F goes before the two bytes of a supplementary character. -/
def eucJp : Coding :=
  extending fun lead bytes =>
    match lead, bytes with
    | 0x8F, row :: cell :: _ =>
      if 0xA1 ≤ row && row ≤ 0xFE then
        match jisX0212.ofHigh? row cell with
        | some c => .char c 2
        | none => .bad (if cell < 0x80 then 1 else 2)
      else .bad (if row < 0x80 then 0 else 1)
    | 0x8F, [row] => .bad (if row < 0x80 then 0 else 1)
    | _, _ =>
      if (0xA1 ≤ lead && lead ≤ 0xFE) || lead = 0x8E || lead = 0x8F then
        pair (fun lead trail => (eucJpChar? lead trail).map ([·])) lead bytes
      else .bad 0

/-! ## ISO-2022-JP -/

/-- The set that bytes stand for: ASCII, its Japanese variant, phonetic signs or the whole
writing. -/
inductive JapaneseSet where
  | ascii
  | roman
  | phonetic
  | whole

def escapeByte : UInt8 := 0x1B

namespace JapaneseSet

def ofEscape? : List UInt8 → Option (JapaneseSet × List UInt8)
  | 0x28 :: 0x42 :: bytes => some (.ascii, bytes)
  | 0x28 :: 0x4A :: bytes => some (.roman, bytes)
  | 0x28 :: 0x49 :: bytes => some (.phonetic, bytes)
  | 0x24 :: 0x40 :: bytes => some (.whole, bytes)
  | 0x24 :: 0x42 :: bytes => some (.whole, bytes)
  | _ => none

theorem length_of_ofEscape? {bytes rest : List UInt8} {set : JapaneseSet}
    (h : ofEscape? bytes = some (set, rest)) : rest.length < bytes.length := by
  unfold ofEscape? at h
  split at h
  case h_6 => simp at h
  all_goals
    simp only [Option.some.injEq, Prod.mk.injEq] at h
    rw [← h.2, List.length_cons, List.length_cons]
    omega

/-- A byte that may begin or end a character of the whole writing. -/
def isWholeByte (byte : UInt8) : Bool :=
  0x21 ≤ byte && byte ≤ 0x7E

def piece (set : JapaneseSet) (byte : UInt8) (bytes : List UInt8) : Piece :=
  match set with
  | .ascii => if isPlain then .char (Char.ofNat byte.toNat) 0 else .bad 0
  | .roman =>
    if byte = 0x5C then .char '¥' 0
    else if byte = 0x7E then .char '‾' 0
    else if isPlain then .char (Char.ofNat byte.toNat) 0
    else .bad 0
  | .phonetic =>
    if 0x21 ≤ byte && byte ≤ 0x5F then .char (halfWidth (byte + 0x80)) 0 else .bad 0
  | .whole =>
    if isWholeByte byte then
      match bytes with
      | [] => .bad 0
      | trail :: _ =>
        if trail = escapeByte then .bad 0
        else if isWholeByte trail then
          .ofChar? (jisX0208.ofHigh? (byte + 0x80) (trail + 0x80)) 1
        else .bad 1
    else .bad 0
where
  isPlain : Bool := byte < 0x80 && byte ≠ 0x0E && byte ≠ 0x0F

/-- The characters of bytes in a set, after those that have been read, the last one first. An escape
right after another one counts as a substitute. -/
def decodeAfter (set : JapaneseSet) (escaped : Bool) (done : List Char) : List UInt8 → List Char
  | [] => done.reverse
  | byte :: bytes =>
    if byte = escapeByte then
      match _h : ofEscape? bytes with
      | some (set, rest) =>
        decodeAfter set true (if escaped then Piece.substitute :: done else done) rest
      | none => decodeAfter set false (Piece.substitute :: done) bytes
    else
      let piece := set.piece byte bytes
      decodeAfter set false (piece.chars.reverseAux done) (bytes.drop piece.used)
termination_by bytes => bytes.length
decreasing_by
  · have := length_of_ofEscape? _h
    rw [List.length_cons]
    omega
  · rw [List.length_cons]
    omega
  · rw [List.length_drop, List.length_cons]
    omega

end JapaneseSet

def decodeIso2022Jp (bytes : List UInt8) : List Char :=
  JapaneseSet.decodeAfter .ascii false [] bytes

end PriorArt.Coding
