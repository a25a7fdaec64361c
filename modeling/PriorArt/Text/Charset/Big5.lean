import PriorArt.Text.Charset.Basic
import PriorArt.Text.Charset.Big5Grid

/-!
# The coding of traditional Chinese writing

Big5 has a pair of bytes for each character. Four of the pairs stand for a letter with an accent
that follows it.
-/

namespace PriorArt.Coding

open Charset

/-- The characters of the places that have two each. -/
def accentedPlaces : List (Nat × List Char) :=
  [(1133, ['\u00ca', '\u0304']), (1135, ['\u00ca', '\u030c']), (1164, ['\u00ea', '\u0304']),
   (1166, ['\u00ea', '\u030c'])]

def big5Row : Nat := 157

def big5Chars? (lead trail : UInt8) : Option (List Char) :=
  let cell := trail.toNat - if trail < 0x7F then 0x40 else 0x62
  let place := (lead.toNat - 0x81) * big5Row + cell
  if (0x40 ≤ trail && trail ≤ 0x7E) || (0xA1 ≤ trail && trail ≤ 0xFE) then
    (accentedPlaces.lookup place).or ((big5Grid.at? place).map ([·]))
  else none

def big5 : Coding :=
  extending fun lead bytes =>
    if 0x81 ≤ lead && lead ≤ 0xFE then pair big5Chars? lead bytes else .bad 0

end PriorArt.Coding
