import PriorArt.Text.Charset.Big5
import PriorArt.Text.Charset.CodePage
import PriorArt.Text.Charset.Gb18030
import PriorArt.Text.Charset.Japanese
import PriorArt.Text.Charset.Korean
import PriorArt.Text.Charset.Unicode
import PriorArt.Text.Utf8

/-!
# Character sets

How the bytes of a text stand for characters, by the labels under which the sets are known on the
web. The main statement is that a text in ASCII reads the same in every set that extends ASCII
(`Charset.decode_ascii`).
-/

namespace PriorArt

/-- A character set: one with a coding that reads piece by piece, ISO-2022-JP, or one that is known
but not to be decoded. -/
inductive Charset where
  | coded (coding : Coding)
  | iso2022Jp
  | undecoded

namespace Charset

def utf8 : Charset := .coded .utf8

/-! ## Labels -/

/-- The sets that are no code pages, by their labels. -/
def others : List (List String × Charset) :=
  [(["unicode-1-1-utf-8", "unicode11utf8", "unicode20utf8", "utf-8", "utf8", "x-unicode20utf8"],
      utf8),
    (["csunicode", "iso-10646-ucs-2", "ucs-2", "unicode", "unicodefeff", "utf-16", "utf-16le"],
      .coded (.utf16 false)),
    (["unicodefffe", "utf-16be"], .coded (.utf16 true)),
    (["x-user-defined"], .coded (.oneByte privateUpper)),
    (["csshiftjis", "ms932", "ms_kanji", "shift-jis", "shift_jis", "sjis", "windows-31j",
      "x-sjis"], .coded .shiftJis),
    (["cseucpkdfmtjapanese", "euc-jp", "x-euc-jp"], .coded .eucJp),
    (["csiso2022jp", "iso-2022-jp"], .iso2022Jp),
    (["cseuckr", "csksc56011987", "euc-kr", "iso-ir-149", "korean", "ks_c_5601-1987",
      "ks_c_5601-1989", "ksc5601", "ksc_5601", "windows-949"], .coded .eucKr),
    (["big5", "big5-hkscs", "cn-big5", "csbig5", "x-x-big5"], .coded .big5),
    (["chinese", "csgb2312", "csiso58gb231280", "gb18030", "gb2312", "gb_2312", "gb_2312-80",
      "gbk", "iso-ir-58", "x-gbk"], .coded .gb18030),
    (["csiso2022kr", "hz-gb-2312", "iso-2022-cn", "iso-2022-cn-ext", "iso-2022-kr",
      "replacement"], .undecoded)]

def isLabelSpace (c : Char) : Bool :=
  [' ', '\t', '\n', '\x0c', '\r'].contains c

def plainLabel (label : List Char) : String :=
  let inner := ((label.dropWhile isLabelSpace).reverse.dropWhile isLabelSpace).reverse
  String.ofList (inner.map Char.toLower)

def ofLabel? (label : List Char) : Option Charset :=
  let label := plainLabel label
  match others.find? fun entry => entry.1.contains label with
  | some (_, charset) => some charset
  | none =>
    (codePages.find? fun page => page.labels.contains label).map fun page =>
      .coded (.oneByte page.upper.toList)

/-! ## Decoding -/

def decode (charset : Charset) (bytes : List UInt8) : String :=
  match charset with
  | .coded coding => String.ofList (coding.decode bytes)
  | .iso2022Jp => String.ofList (Coding.decodeIso2022Jp bytes)
  | .undecoded => if bytes.isEmpty then "" else String.singleton Piece.substitute

/-- A text in ASCII reads the same in every set that extends ASCII. -/
theorem decode_ascii {upper : Coding} {text : String} (h : ∀ c ∈ text.toList, c.toNat < 128) :
    decode (.coded (.extending upper)) (Utf8.encode text) = text := by
  rw [decode, Utf8.encode_of_ascii h, Coding.decode_ascii h, String.ofList_toList]

/-- The marks at the beginning of a text that tell its set. -/
def marks : List (List UInt8 × Charset) :=
  [([0xEF, 0xBB, 0xBF], utf8), ([0xFE, 0xFF], .coded (.utf16 true)),
    ([0xFF, 0xFE], .coded (.utf16 false))]

/-- The text of bytes in the set that a mark at their beginning tells, or else in the given one. -/
def decodeMarked (charset : Charset) (bytes : List UInt8) : String :=
  match marks.find? fun mark => mark.1.isPrefixOf bytes with
  | some (mark, marked) => marked.decode (bytes.drop mark.length)
  | none => charset.decode bytes

end Charset

end PriorArt
