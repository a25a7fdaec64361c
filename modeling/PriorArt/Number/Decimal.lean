import PriorArt.Number.Binary64

/-!
# Decimal numerals

Natural numbers to and from their decimal digits, and two ways from a decimal numeral to a double:
the nearest one, and the one that the arithmetic of a fast reader arrives at.
-/

namespace PriorArt

namespace Decimal

def digit? (c : Char) : Option Nat :=
  if '0' ≤ c && c ≤ '9' then some (c.toNat - '0'.toNat) else none

def isDigit (c : Char) : Bool :=
  (digit? c).isSome

def ofDigitsFrom (acc : Nat) : List Char → Nat
  | [] => acc
  | c :: cs => ofDigitsFrom (acc * 10 + (digit? c).getD 0) cs

def ofDigits (cs : List Char) : Nat :=
  ofDigitsFrom 0 cs

/-- A numeral below `2^64`: digits alone, or after one plus sign. -/
def word? (cs : List Char) : Option Nat :=
  let digits := match cs with
    | '+' :: rest => rest
    | cs => cs
  if digits.isEmpty || !digits.all isDigit then none
  else
    let n := ofDigits digits
    if n < Nat.pow 2 64 then some n else none

/-- The double nearest to `significand * 10^exponent`. Exponents so large or small that the result
is certain are not computed with. -/
def nearest (negative : Bool) (significand : Nat) (exponent : Int) : Binary64 :=
  if significand = 0 then .finite negative 0
  else if 400 < exponent then .infinite negative
  else if exponent + significand.log2 < -400 then .finite negative 0
  else if 0 ≤ exponent then Binary64.ofRatio negative (significand * Nat.pow 10 exponent.toNat) 1
  else Binary64.ofRatio negative significand (Nat.pow 10 (-exponent).toNat)

end Decimal

namespace Binary64

/-- Ten to a power, as the nearest double: the ratio of its quanta to those of one. -/
def powerOfTen (k : Nat) : Nat :=
  roundBits 53 0 (Nat.pow 10 k * quantaOfOne) 1

/-- A number divided by `10^k`, in steps of at most `10^308` that are rounded one by one. -/
def shrink (x : Binary64) (k : Nat) : Binary64 :=
  if k ≤ 308 then x.scale quantaOfOne (powerOfTen k)
  else if x.isZero then x
  else shrink (x.scale quantaOfOne (powerOfTen 308)) (k - 308)
termination_by k

/-- A significand of at most 64 bits times a power of ten, where the significand, the power and
their product or quotient are each rounded to a double. There is none if the result is too large. -/
def assemble? (negative : Bool) (significand : Nat) (exponent : Int) : Option Binary64 :=
  let x := ofRatio negative significand 1
  if exponent < 0 then some (x.shrink (-exponent).toNat)
  else if x.isZero then some x
  else if 308 < exponent then none
  else
    let y := x.scale (powerOfTen exponent.toNat) quantaOfOne
    if y.isFinite then some y else none

end Binary64

end PriorArt
