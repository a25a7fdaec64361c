/-!
# Digits of a radix

Digits and numbers in a radix of at most sixteen, where letters of either case stand for the digits
from ten.
-/

namespace PriorArt.Radix

def digit? (radix : Nat) (c : Char) : Option Nat :=
  let value :=
    if '0' ≤ c && c ≤ '9' then some (c.toNat - '0'.toNat)
    else if 'a' ≤ c && c ≤ 'f' then some (c.toNat - 'a'.toNat + 10)
    else if 'A' ≤ c && c ≤ 'F' then some (c.toNat - 'A'.toNat + 10)
    else none
  value.filter (· < radix)

def isDigit (radix : Nat) (c : Char) : Bool :=
  (digit? radix c).isSome

/-- The number that a list of digits denotes. Characters that are no digits are passed over. -/
def ofDigits (radix : Nat) (cs : List Char) : Nat :=
  (cs.filterMap (digit? radix)).foldl (fun n d => n * radix + d) 0

end PriorArt.Radix
