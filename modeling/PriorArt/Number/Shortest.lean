import PriorArt.Number.Binary64

/-!
# Shortest decimal digits of a double

The digits of a finite double are the fewest that tell it apart from every other double: on the
decimal grids of one, two, and up to seventeen digits, the first grid with a point that rounds to
the number is taken, and on it the nearest such point.
-/

namespace PriorArt

namespace Binary64

/-- A decimal numeral, the significand times a power of ten. -/
structure Numeral where
  significand : Nat
  exponent : Int
  deriving DecidableEq, Inhabited

/-- The exponent of the leading decimal digit of `quanta`, as a power of ten of the number one. No
double but zero is below `10^-324`. -/
def decimalExponent (quanta : Nat) : Int :=
  ((Nat.toDigits 10 (quanta * Nat.pow 10 324 / quantaOfOne)).length : Int) - 325

def gapAbove (quanta : Nat) : Nat :=
  Nat.pow 2 (quanta.log2 - 52)

/-- The width of the gap below a number of quanta: half the one above it for a power of two. -/
def gapBelow (quanta : Nat) : Nat :=
  if Nat.pow 2 53 ≤ quanta && quanta = Nat.pow 2 quanta.log2 then gapAbove quanta / 2
  else gapAbove quanta

/-- The point `candidate * 10^exponent` rounds to the given number of quanta. All is compared after
multiplication by twice the denominators. -/
def roundsTo (quanta : Nat) (candidate : Nat) (exponent : Int) : Bool :=
  let num := candidate * Nat.pow 10 exponent.toNat * quantaOfOne * 2
  let den := Nat.pow 10 (-exponent).toNat
  let centre := quanta * den * 2
  let even := (quanta / gapAbove quanta) % 2 == 0
  let low := centre - gapBelow quanta * den
  let high := centre + gapAbove quanta * den
  if even then low ≤ num && num ≤ high else low < num && num < high

/-- The point `candidate * 10^exponent` of the grid with the given number of digits. The power of
ten that ends the grid is written with one digit. -/
def point (digits candidate : Nat) (exponent : Int) : Numeral :=
  if candidate = Nat.pow 10 digits then ⟨1, exponent + digits⟩ else ⟨candidate, exponent⟩

/-- The nearest point with the given number of digits that rounds to the number, if there is one. -/
def onGrid? (quanta digits : Nat) : Option Numeral :=
  let exponent := decimalExponent quanta - digits + 1
  let num := quanta * Nat.pow 10 (-exponent).toNat
  let den := quantaOfOne * Nat.pow 10 exponent.toNat
  let below := num / den
  let nearer := roundHalfEven num den
  let other := if nearer = below then below + 1 else below
  if roundsTo quanta nearer exponent then some (point digits nearer exponent)
  else if roundsTo quanta other exponent then some (point digits other exponent)
  else none

/-- The shortest numeral that rounds to a positive number of quanta. -/
def shortest (quanta : Nat) : Numeral :=
  (((List.range 17).findSome? fun k => onGrid? quanta (k + 1))).getD ⟨0, 0⟩

end Binary64

end PriorArt
