import PriorArt.Number.Radix

/-!
# Percent signs

In an address a percent sign and two hexadecimal digits stand for a byte. The main statement is that
escaped bytes come back (`decode_flatMap_escapeByte`).
-/

namespace PriorArt.Percent

def hexDigits : List Char :=
  ['0', '1', '2', '3', '4', '5', '6', '7', '8', '9', 'A', 'B', 'C', 'D', 'E', 'F']

def escapeByte (b : UInt8) : List Char :=
  let digit (n : Nat) : Char := hexDigits.getD n '0'
  ['%', digit (b.toNat / 16), digit (b.toNat % 16)]

def escape (isEscaped : Char → Bool) (cs : List Char) : List Char :=
  cs.flatMap fun c =>
    if isEscaped c then (String.utf8EncodeChar c).flatMap escapeByte else [c]

def byte? : List Char → Option UInt8
  | a :: b :: _ => do return UInt8.ofNat ((← Radix.digit? 16 a) * 16 + (← Radix.digit? 16 b))
  | _ => none

/-- The bytes that a text stands for. A percent sign without two digits stands for itself. -/
def decode : List Char → List UInt8
  | [] => []
  | c :: cs =>
    match if c = '%' then byte? cs else none with
    | some byte => byte :: decode (cs.drop 2)
    | none => String.utf8EncodeChar c ++ decode cs
termination_by cs => cs.length

theorem digit?_hexDigits :
    ∀ n < 16, Radix.digit? 16 (hexDigits.getD n '0') = some n := by
  decide

theorem decode_escapeByte (b : UInt8) (cs : List Char) :
    decode (escapeByte b ++ cs) = b :: decode cs := by
  have hb : b.toNat < 256 := b.toNat_lt
  have high := digit?_hexDigits (b.toNat / 16) (by omega)
  have low := digit?_hexDigits (b.toNat % 16) (by omega)
  have byte : byte? (hexDigits.getD (b.toNat / 16) '0' :: hexDigits.getD (b.toNat % 16) '0' :: cs) =
      some b := by
    rw [byte?, high, low]
    exact congrArg some (by rw [Nat.div_add_mod', UInt8.ofNat_toNat])
  rw [escapeByte, List.cons_append, decode, if_pos rfl, List.cons_append, List.cons_append,
    List.nil_append, byte]
  rfl

theorem decode_flatMap_escapeByte (bytes : List UInt8) :
    decode (bytes.flatMap escapeByte) = bytes := by
  induction bytes with
  | nil => rw [List.flatMap_nil, decode]
  | cons b bytes ih => rw [List.flatMap_cons, decode_escapeByte, ih]

end PriorArt.Percent
