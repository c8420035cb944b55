/-!
# Binary floating point, exactly

Every finite double is a whole number of units of 2⁻¹⁰⁷⁴, so its magnitude is kept as that number
and arithmetic is arithmetic on integers. What makes a magnitude representable is that it has at
most 53 significant bits and stays below 2¹⁰²⁴; `nearest` rounds any non-negative rational to the
closest representable magnitude, a tie going to the even one. Zero keeps its sign because its
text shows it, although the two zeros are equal.
-/
namespace BrokerMaps

inductive Binary64 where
  | nan
  | infinite (negative : Bool)
  | finite (negative : Bool) (units : Nat)
  deriving DecidableEq, Repr

namespace Binary64

/-- The number of units in one. -/
def unitsPerOne : Nat := Nat.pow 2 1074

/-- The least magnitude that is out of range. -/
def unitsLimit : Nat := Nat.pow 2 2098

/-- Distance between neighbouring representable magnitudes from `units` upward, up to the next
power of two. -/
def spacing (units : Nat) : Nat := Nat.pow 2 (units.log2 - 52)

/-- The nearest whole number to a quotient; a tie goes to the even one. -/
def roundQuotient (numerator denominator : Nat) : Nat :=
  let whole := numerator / denominator
  let twice := 2 * (numerator % denominator)
  if twice < denominator then whole
  else if denominator < twice then whole + 1
  else whole + whole % 2

/-- Rounds `numerator / denominator` units to a representable magnitude. -/
def nearestUnits (numerator denominator : Nat) : Nat :=
  let gap := spacing (numerator / denominator)
  roundQuotient numerator (denominator * gap) * gap

def ofUnits (negative : Bool) (units : Nat) : Binary64 :=
  if units < unitsLimit then .finite negative units else .infinite negative

/-- The double nearest to a signed quotient. -/
def nearest (negative : Bool) (numerator denominator : Nat) : Binary64 :=
  ofUnits negative (nearestUnits (numerator * unitsPerOne) denominator)

def zero : Binary64 := .finite false 0

def one : Binary64 := .finite false unitsPerOne

/-- The double nearest to an integer; `none` when it is out of range. -/
def ofInt? (n : Int) : Option Binary64 :=
  match nearest (n < 0) n.natAbs 1 with
  | .finite negative units => some (.finite negative units)
  | _ => none

/-- The value of a finite double in units. -/
def signedUnits (negative : Bool) (units : Nat) : Int :=
  if negative then -(units : Int) else units

/-- The integer that a double is, if it is one. -/
def toInt? : Binary64 → Option Int
  | .finite negative units =>
    if units % unitsPerOne = 0 then some (signedUnits negative (units / unitsPerOne)) else none
  | _ => none

def isZero : Binary64 → Bool
  | .finite _ units => units = 0
  | _ => false

/-- Numerical equality: nothing equals a NaN and the zeros are equal. -/
def equals : Binary64 → Binary64 → Bool
  | .finite n u, .finite m v => signedUnits n u = signedUnits m v
  | .infinite n, .infinite m => n = m
  | _, _ => false

/-- Order against an integer; a NaN is not below any. -/
def lessInt : Binary64 → Int → Bool
  | .finite negative units, n => signedUnits negative units < n * unitsPerOne
  | .infinite negative, _ => negative
  | .nan, _ => false

/-- The rounded sum. An exact zero is positive unless both terms are negative zeros. -/
def add : Binary64 → Binary64 → Binary64
  | .finite n u, .finite m v =>
    let sum := signedUnits n u + signedUnits m v
    if sum = 0 then .finite (n && m) 0
    else ofUnits (sum < 0) (nearestUnits sum.natAbs 1)
  | .infinite n, .infinite m => if n = m then .infinite n else .nan
  | .infinite n, .finite _ _ => .infinite n
  | .finite _ _, .infinite m => .infinite m
  | _, _ => .nan

end Binary64
end BrokerMaps
