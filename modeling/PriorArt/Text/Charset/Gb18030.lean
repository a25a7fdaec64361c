import PriorArt.Text.Charset.Basic
import PriorArt.Text.Charset.Gb2312
import PriorArt.Text.Charset.Gb18030Ranges

/-!
# The coding of all Chinese writing

GB 18030 has the characters of GB 2312 in pairs of high bytes, other ideographs, other signs and
characters for private use in the other pairs, and all of Unicode in fours of bytes.
-/

namespace PriorArt.Coding

open Charset

/-! ## Pairs of bytes -/

/-- The ideographs and parts of ideographs that stand after all others. -/
def lateIdeographs : Grid := .ofRuns
  [⟨0, "郎凉秊裏隣兀嗀﨎﨏﨑﨓﨔礼﨟蘒﨡﨣﨤﨧﨨﨩⺁\ue816\ue817\ue818⺄㑳㑇⺈⺋龴㖞㘚㘎⺌⺗㥮㤘龵㧏㧟㩳㧐龶龷㭎㱮㳠⺧\ue831龸⺪䁖䅟⺮䌷⺳⺶⺷"⟩,
   ⟨59, "\ue83b䎱䎬⺻䏝䓖䙡䙌龹䜣䜩䝼䞍⻊䥇䥺䥽䦂䦃䦅䦆䦟䦛䦷䦶龺\ue855䲣䲟䲠䲡䱷䲢䴓䴔䴕䴖䴗䴘䴙䶮龻"⟩]

/-- The ideographs that are not in GB 2312. -/
def otherIdeographs : Array (Option Char) :=
  (gb2312.missing 0x4E00 20902).map some ++ lateIdeographs.cells

/-- The signs in the two rows of pairs that have other signs. -/
def otherSigns : Grid := .ofRuns
  [⟨0, "ˊˋ˙–―‥‵℅℉↖↗↘↙∕∟∣≒≦≧⊿═║╒╓╔╕╖╗╘╙╚╛╜╝╞╟╠╡╢╣╤╥╦╧╨╩╪╫╬╭╮╯╰╱╲╳▁▂▃▄▅▆▇█▉▊▋▌▍▎▏▓▔▕▼▽◢◣◤◥☉⊕〒〝"⟩,
   ⟨84, "〞\ue7bc\ue7bd\ue7be\ue7bf\ue7c0\ue7c1\ue7c2\ue7c3\ue7c4\ue7c5\ue7c6〡〢〣〤〥〦〧〨〩㊣㎎㎏㎜㎝㎞㎡㏄"⟩,
   ⟨113, "㏎㏑㏒㏕︰￢￤\ue7e2℡㈱\ue7e3‐\ue7e4\ue7e5\ue7e6ー゛゜ヽヾ〆ゝゞ﹉﹊﹋﹌﹍﹎﹏﹐﹑﹒﹔﹕﹖﹗﹙﹚﹛﹜﹝﹞﹟﹠﹡﹢﹣﹤﹥﹦﹨﹩﹪﹫〾⿰⿱⿲"⟩,
   ⟨172, "⿳⿴⿵⿶⿷⿸⿹⿺⿻〇\ue7f4\ue7f5\ue7f6\ue7f7\ue7f8\ue7f9\ue7fa\ue7fb\ue7fc\ue7fd"⟩]

def privateUse (n : Nat) : Char :=
  Char.ofNat (0xE000 + n)

/-- The cells of a row below the high second bytes, in which there is none for 0x7F. -/
def lowRow : Nat := 96

def wideRow : Nat := 190

/-- The character of two high bytes: some rows of the grid are for private use. -/
def highChar? (lead trail : UInt8) : Option Char :=
  let cell := trail.toNat - 0xA1
  if 0xAA ≤ lead && lead ≤ 0xAF then
    some (privateUse ((lead.toNat - 0xAA) * Grid.rowSize + cell))
  else if 0xF8 ≤ lead then
    some (privateUse ((lead.toNat - 0xF8 + 6) * Grid.rowSize + cell))
  else gb2312.ofHigh? lead trail

def lowChar? (lead : UInt8) (cell : Nat) : Option Char :=
  if lead = 0xA3 && cell = lowRow - 1 then some '\u3000'
  else if lead < 0xA8 then
    some (privateUse (13 * Grid.rowSize + (lead.toNat - 0xA1) * lowRow + cell))
  else if lead < 0xAA then otherSigns.at? ((lead.toNat - 0xA8) * lowRow + cell)
  else otherIdeographs[32 * wideRow + (lead.toNat - 0xAA) * lowRow + cell]?.join

def gbChar? (lead trail : UInt8) : Option Char :=
  let cell := trail.toNat - if trail < 0x7F then 0x40 else 0x41
  if trail < 0x40 || trail = 0x7F || trail = 0xFF then none
  else if lead < 0xA1 then otherIdeographs[(lead.toNat - 0x81) * wideRow + cell]?.join
  else if 0xA1 ≤ trail then highChar? lead trail
  else lowChar? lead cell

/-! ## Fours of bytes -/

def fourPlace (first second third fourth : UInt8) : Nat :=
  (((first.toNat - 0x81) * 10 + (second.toNat - 0x30)) * 126 + (third.toNat - 0x81)) * 10 +
    (fourth.toNat - 0x30)

/-- The greatest number of four bytes for a character of 16 bits. -/
def lastBasicPlace : Nat := 39419

/-- The numbers of the first and the last four bytes for the characters beyond 16 bits. -/
def beyondPlaces : Nat × Nat := (189000, 1237575)

/-- The place of a character for private use that lies outside its range. -/
def strayPlace : Nat := 7457

def ofFourPlace? (place : Nat) : Option Char :=
  if place = strayPlace then some '\ue7c7'
  else if place ≤ lastBasicPlace then
    (gb18030Ranges.reverse.find? (·.1 ≤ place)).map fun (first, code) =>
      Char.ofNat (code + (place - first))
  else if beyondPlaces.1 ≤ place && place ≤ beyondPlaces.2 then
    some (Char.ofNat (0x10000 + (place - beyondPlaces.1)))
  else none

def isFourDigit (byte : UInt8) : Bool :=
  0x30 ≤ byte && byte ≤ 0x39

def isGbLead (byte : UInt8) : Bool :=
  0x81 ≤ byte && byte ≤ 0xFE

/-- Four bytes of which the first two are known to be of four. A byte among them that does not
belong there leaves those after the first one to other pieces. -/
def gbFour (lead digit : UInt8) : List UInt8 → Piece
  | [] => .bad 1
  | [third] => if isGbLead third then .bad 2 else .bad 0
  | third :: fourth :: _ =>
    if isGbLead third && isFourDigit fourth then
      .ofChar? (ofFourPlace? (fourPlace lead digit third fourth)) 3
    else .bad 0

def gb18030 : Coding :=
  extending fun lead bytes =>
    if lead = 0x80 then .char '€' 0
    else if isGbLead lead then
      match bytes with
      | [] => .bad 0
      | trail :: rest =>
        if isFourDigit trail then gbFour lead trail rest
        else pair (fun lead trail => (gbChar? lead trail).map ([·])) lead bytes
    else .bad 0

end PriorArt.Coding
