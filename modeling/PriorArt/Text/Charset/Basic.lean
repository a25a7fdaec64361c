/-!
# Codings of texts

A coding says what the bytes of a text stand for, piece by piece: a byte and some of those after it
stand for one or more characters, and the next piece follows. Bytes that stand for nothing count as
a substitute.

Most codings extend ASCII. The main statement on them is that a text in ASCII reads the same in all
of these (`Coding.decode_ascii`).
-/

namespace PriorArt

/-- What a byte and some of those after it stand for: characters, and the number of the bytes after
the first that belong to it. -/
structure Piece where
  chars : List Char
  used : Nat

namespace Piece

/-- What stands for bytes that stand for nothing. -/
def substitute : Char := '\ufffd'

def char (c : Char) (used : Nat) : Piece :=
  ⟨[c], used⟩

/-- A piece that stands for nothing. -/
def bad (used : Nat) : Piece :=
  ⟨[substitute], used⟩

def ofChar? (c : Option Char) (used : Nat) : Piece :=
  ⟨[c.getD substitute], used⟩

end Piece

/-- The piece that a byte begins, given the bytes after it. -/
abbrev Coding := UInt8 → List UInt8 → Piece

namespace Coding

/-- The characters of bytes, after those that have been read, the last one first. -/
def decodeAfter (coding : Coding) (done : List Char) : List UInt8 → List Char
  | [] => done.reverse
  | byte :: bytes =>
    let piece := coding byte bytes
    decodeAfter coding (piece.chars.reverseAux done) (bytes.drop piece.used)
termination_by bytes => bytes.length
decreasing_by
  rw [List.length_drop, List.length_cons]
  omega

def decode (coding : Coding) (bytes : List UInt8) : List Char :=
  decodeAfter coding [] bytes

/-- What has been read stays in front. -/
theorem decodeAfter_eq (coding : Coding) (done : List Char) (bytes : List UInt8) :
    decodeAfter coding done bytes = done.reverse ++ decode coding bytes := by
  match bytes with
  | [] => rw [decode, decodeAfter, decodeAfter, List.reverse_nil, List.append_nil]
  | byte :: bytes =>
    rw [decode, decodeAfter, decodeAfter, decodeAfter_eq, decodeAfter_eq coding (_ : List Char),
      List.reverseAux_eq, List.reverseAux_eq, List.reverse_append, List.append_nil,
      List.append_assoc]
termination_by bytes.length
decreasing_by
  all_goals
    rw [List.length_drop, List.length_cons]
    omega

@[simp]
theorem decode_nil (coding : Coding) : decode coding [] = [] := by
  rw [decode, decodeAfter, List.reverse_nil]

theorem decode_cons (coding : Coding) (byte : UInt8) (bytes : List UInt8) :
    decode coding (byte :: bytes) =
      (coding byte bytes).chars ++ decode coding (bytes.drop (coding byte bytes).used) := by
  rw [decode, decodeAfter, decodeAfter_eq, List.reverseAux_eq, List.append_nil,
    List.reverse_reverse]

/-! ## Codings that extend ASCII -/

/-- The coding in which the first 128 bytes are ASCII and pieces of their own. -/
def extending (upper : Coding) : Coding := fun byte bytes =>
  if byte < 0x80 then .char (Char.ofNat byte.toNat) 0 else upper byte bytes

/-- A text in ASCII reads the same in every coding that extends ASCII. -/
theorem decode_ascii {upper : Coding} {cs : List Char} (h : ∀ c ∈ cs, c.toNat < 128) :
    decode (extending upper) (cs.map fun c => UInt8.ofNat c.toNat) = cs := by
  induction cs with
  | nil => exact decode_nil _
  | cons c cs ih =>
    have hc : c.toNat < 128 := h c List.mem_cons_self
    have hn : (UInt8.ofNat c.toNat).toNat = c.toNat := by
      rw [UInt8.toNat_ofNat']
      omega
    have hlt : UInt8.ofNat c.toNat < 0x80 := by
      rw [UInt8.lt_iff_toNat_lt, hn]
      exact hc
    rw [List.map_cons, decode_cons, extending, if_pos hlt, Piece.char, hn, Char.ofNat_toNat,
      List.drop_zero, ih fun d hd => h d (List.mem_cons_of_mem c hd), List.singleton_append]

/-! ## Codings by pairs of bytes -/

/-- The piece of two bytes, of which the first is given. If they stand for nothing, a second byte in
ASCII is a piece of its own. -/
def pair (chars? : UInt8 → UInt8 → Option (List Char)) : Coding
  | _, [] => .bad 0
  | lead, trail :: _ =>
    match chars? lead trail with
    | some chars => ⟨chars, 1⟩
    | none => .bad (if trail < 0x80 then 0 else 1)

end Coding

end PriorArt
