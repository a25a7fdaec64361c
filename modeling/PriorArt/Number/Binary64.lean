/-!
# Double-precision numbers

A finite double is a whole number of quanta, a quantum being the least positive double, `2^-1074`.
Order, rounding and arithmetic are then exact arithmetic on natural numbers, followed by one
rounding to 53 significant bits with ties to even.
-/

namespace PriorArt

/-- A double-precision floating-point number. -/
inductive Binary64 where
  | nan
  | infinite (negative : Bool)
  | finite (negative : Bool) (quanta : Nat)
  deriving DecidableEq, Inhabited

namespace Binary64

def quantaOfOne : Nat := Nat.pow 2 1074

/-- The number of quanta from which a number is infinite. -/
def quantaLimit : Nat := Nat.pow 2 2098

def zero : Binary64 := .finite false 0

def one : Binary64 := .finite false quantaOfOne

def isFinite : Binary64 → Bool
  | .finite _ _ => true
  | _ => false

/-- The signed number of quanta of a finite number. -/
def units (negative : Bool) (quanta : Nat) : Int :=
  if negative then -quanta else quanta

/-- Numeric order. No number is below or above one that is not a number. -/
def lt : Binary64 → Binary64 → Bool
  | .nan, _ => false
  | _, .nan => false
  | .infinite s, .infinite t => s && !t
  | .infinite s, .finite _ _ => s
  | .finite _ _, .infinite t => !t
  | .finite s m, .finite t n => units s m < units t n

/-- Numeric equality: the two zeros are equal, and what is not a number equals nothing. -/
def same : Binary64 → Binary64 → Bool
  | .infinite s, .infinite t => s == t
  | .finite s m, .finite t n => units s m == units t n
  | _, _ => false

def inUnitInterval : Binary64 → Bool
  | .finite s n => 0 ≤ units s n && units s n ≤ quantaOfOne
  | _ => false

/-- The nearest number between zero and one; what is not finite counts as zero. -/
def clampToUnit (x : Binary64) : Binary64 :=
  if x.isFinite then
    if x.lt zero then zero else if one.lt x then one else x
  else zero

theorem inUnitInterval_iff {x : Binary64} :
    x.inUnitInterval = true ↔ x.isFinite = true ∧ x.lt zero = false ∧ one.lt x = false := by
  cases x with
  | nan => exact ⟨nofun, nofun⟩
  | infinite negative => exact ⟨nofun, nofun⟩
  | finite negative quanta =>
    simp only [inUnitInterval, isFinite, lt, zero, one, Bool.and_eq_true, decide_eq_true_eq,
      decide_eq_false_iff_not, Int.not_lt, true_and]
    exact Iff.rfl

theorem inUnitInterval_zero : zero.inUnitInterval = true := by decide +kernel

theorem inUnitInterval_one : one.inUnitInterval = true := by decide +kernel

theorem inUnitInterval_clampToUnit (x : Binary64) : x.clampToUnit.inUnitInterval = true := by
  unfold clampToUnit
  split
  next finite =>
    split
    next => exact inUnitInterval_zero
    next notBelow =>
      split
      next => exact inUnitInterval_one
      next notAbove =>
        exact inUnitInterval_iff.2
          ⟨finite, Bool.eq_false_iff.2 notBelow, Bool.eq_false_iff.2 notAbove⟩
  next => exact inUnitInterval_zero

theorem clampToUnit_eq_self {x : Binary64} (h : x.inUnitInterval = true) : x.clampToUnit = x := by
  obtain ⟨finite, notBelow, notAbove⟩ := inUnitInterval_iff.1 h
  rw [clampToUnit, if_pos finite, notBelow, notAbove]
  rfl

theorem inUnitInterval_of_same {x y : Binary64} (h : x.same y = true) :
    x.inUnitInterval = y.inUnitInterval := by
  unfold same at h
  split at h
  · rfl
  · rw [inUnitInterval, inUnitInterval, eq_of_beq h]
  · cases h

/-- Just the numbers between zero and one equal their nearest. -/
theorem same_clampToUnit (x : Binary64) : x.clampToUnit.same x = x.inUnitInterval := by
  cases inside : x.inUnitInterval with
  | true =>
    rw [clampToUnit_eq_self inside]
    cases x with
    | nan => cases inside
    | infinite negative => cases inside
    | finite negative quanta => exact beq_self_eq_true _
  | false =>
    refine Bool.eq_false_iff.2 fun equal => ?_
    have clamped := inUnitInterval_of_same equal
    rw [inUnitInterval_clampToUnit, inside] at clamped
    cases clamped

/-- The whole number nearest to `num / den`; a half goes to the even neighbour. -/
def roundHalfEven (num den : Nat) : Nat :=
  let whole := num / den
  let rest := num % den
  if 2 * rest < den then whole
  else if den < 2 * rest then whole + 1
  else whole + whole % 2

/-- The number nearest to `num / den` among those with `precision` significant bits that are
multiples of `2^least`. -/
def roundBits (precision least num den : Nat) : Nat :=
  let step := Nat.pow 2 (max least ((num / den).log2 + 1 - precision))
  roundHalfEven num (den * step) * step

def ofRatio (negative : Bool) (num den : Nat) : Binary64 :=
  let quanta := roundBits 53 0 (num * quantaOfOne) den
  if quanta < quantaLimit then .finite negative quanta else .infinite negative

def ofNat (n : Nat) : Binary64 :=
  ofRatio false n 1

def ofInt (i : Int) : Binary64 :=
  ofRatio (i < 0) i.natAbs 1

def isZero : Binary64 → Bool
  | .finite _ 0 => true
  | _ => false

def neg : Binary64 → Binary64
  | .nan => .nan
  | .infinite s => .infinite (!s)
  | .finite s n => .finite (!s) n

/-- A finite number times `num / den`, rounded once. -/
def scale (x : Binary64) (num den : Nat) : Binary64 :=
  match x with
  | .finite s n => ofRatio s (n * num) (quantaOfOne * den)
  | x => x

/-- The single-precision number nearest to a number of quanta, as a double. A magnitude of `2^128`
or more becomes infinite. -/
def singleOfQuanta (negative : Bool) (quanta : Nat) : Binary64 :=
  let rounded := roundBits 24 925 quanta 1
  if rounded < Nat.pow 2 1202 then .finite negative rounded else .infinite negative

def toSingle : Binary64 → Binary64
  | .finite s n => singleOfQuanta s n
  | x => x

def singleOfInt (i : Int) : Binary64 :=
  singleOfQuanta (i < 0) (i.natAbs * quantaOfOne)

/-- The greatest natural number not above a positive number, at most `limit`. -/
def floorUpTo (limit : Nat) : Binary64 → Nat
  | .finite false n => min (n / quantaOfOne) limit
  | .infinite false => limit
  | _ => 0

end Binary64

end PriorArt
