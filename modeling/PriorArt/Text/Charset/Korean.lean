import PriorArt.Text.Charset.Basic
import PriorArt.Text.Charset.KsX1001

/-!
# The coding of Korean writing

EUC-KR has the characters of KS X 1001 in pairs of high bytes, and the syllables that are not among
them in the other pairs, in their order.
-/

namespace PriorArt.Coding

open Charset

/-- The syllables that are not in KS X 1001. -/
def otherSyllables : Array Char :=
  ksX1001.missing 0xAC00 11172

def syllableCell? (trail : UInt8) : Option Nat :=
  if 0x41 ≤ trail && trail ≤ 0x5A then some (trail.toNat - 0x41)
  else if 0x61 ≤ trail && trail ≤ 0x7A then some (trail.toNat - 0x61 + 26)
  else if 0x81 ≤ trail && trail ≤ 0xFE then some (trail.toNat - 0x81 + 52)
  else none

/-- The cells of a row of other syllables, in the rows before 0xA1 and in those from there on. -/
def syllableRow : Nat × Nat := (178, 84)

def otherSyllable? (lead trail : UInt8) : Option Char := do
  let cell ← syllableCell? trail
  if lead < 0xA1 then
    otherSyllables[(lead.toNat - 0x81) * syllableRow.1 + cell]?
  else if cell < syllableRow.2 then
    otherSyllables[32 * syllableRow.1 + (lead.toNat - 0xA1) * syllableRow.2 + cell]?
  else none

def eucKrChar? (lead trail : UInt8) : Option Char :=
  if 0xA1 ≤ lead && 0xA1 ≤ trail then ksX1001.ofHigh? lead trail else otherSyllable? lead trail

def eucKr : Coding :=
  extending fun lead bytes =>
    if 0x81 ≤ lead && lead ≤ 0xFE then
      pair (fun lead trail => (eucKrChar? lead trail).map ([·])) lead bytes
    else .bad 0

end PriorArt.Coding
