import BrokerMaps.Binary64.Basic

/-!
# Doubles as decimal text

Writing gives the fewest digits that read back as the same double, and of those the closest to
it. The reals that round to a double form an interval around it, whose ends belong to it exactly
when the double is even on its grid. For one digit, two digits and so on the two neighbours of the
double on that decimal grid are tried, and the first grid with a neighbour inside the interval
wins; seventeen digits always suffice. Everything is compared in whole numbers, in quarters of a
unit so that the half gaps are whole too.

The layout is positional when the leading digit stands between 10⁻⁴ and 10¹⁵ and scientific
outside; positional text always shows a fraction, and a scientific exponent has a sign and at least
two digits.
-/
namespace BrokerMaps.Binary64

/-! ## Fewest digits -/

/-- The reals that round to a magnitude, in quarter units. -/
structure RoundingInterval where
  low : Nat
  centre : Nat
  high : Nat
  closed : Bool

def roundingInterval (units : Nat) : RoundingInterval :=
  let gap := spacing units
  -- Below a power of two the grid is twice as fine, so the interval reaches half as far.
  let below := if units = Nat.pow 2 units.log2 && 52 < units.log2 then gap else 2 * gap
  ⟨4 * units - below, 4 * units, 4 * units + 2 * gap, (units / gap) % 2 = 0⟩

/-- A positive decimal `digits · 10^exponent`. -/
structure Decimal where
  digits : Nat
  exponent : Int
  deriving DecidableEq, Repr

/-- The exponent of the leading decimal digit of a positive magnitude. Scaling by 10⁴⁰⁰ leaves
even the least double with digits before the point. -/
def leadingExponent (units : Nat) : Int :=
  ((Nat.toDigits 10 (units * Nat.pow 10 400 / unitsPerOne)).length : Int) - 401

/-- A decimal grid 10^exponent as a common scale: `unit` is the grid's distance and `factor` what
quarter units are multiplied by. -/
def gridScale (exponent : Int) : Nat × Nat :=
  match exponent with
  | .ofNat power => (1, Nat.pow 10 power * (4 * unitsPerOne))
  | .negSucc power => (Nat.pow 10 (power + 1), 4 * unitsPerOne)

def RoundingInterval.holds (interval : RoundingInterval) (factor point : Nat) : Bool :=
  let low := interval.low * factor
  let high := interval.high * factor
  if interval.closed then low ≤ point && point ≤ high else low < point && point < high

/-- The better neighbour on one decimal grid, if one lies inside the interval. -/
def onGrid? (interval : RoundingInterval) (exponent : Int) : Option Decimal :=
  let (factor, unit) := gridScale exponent
  let centre := interval.centre * factor
  let below := centre / unit
  let above := below + 1
  let belowFits := 0 < below && interval.holds factor (below * unit)
  let aboveFits := interval.holds factor (above * unit)
  let twice := 2 * (centre - below * unit)
  -- Of two neighbours the nearer one, and the even one where both are as near.
  let chosen := if twice < unit || (twice = unit && below % 2 = 0) then below else above
  match belowFits, aboveFits with
  | true, true => some ⟨chosen, exponent⟩
  | true, false => some ⟨below, exponent⟩
  | false, true => some ⟨above, exponent⟩
  | false, false => none

def shortestFrom (interval : RoundingInterval) : Nat → Int → Option Decimal
  | 0, _ => none
  | attempts + 1, exponent =>
    match onGrid? interval exponent with
    | some found => some found
    | none => shortestFrom interval attempts (exponent - 1)

/-- The shortest decimal that reads back as the magnitude. -/
def shortest (units : Nat) : Decimal :=
  (shortestFrom (roundingInterval units) 17 (leadingExponent units)).getD ⟨0, 0⟩

/-! ## Layout -/

def dropTrailingZeros (digits : List Char) : List Char :=
  (digits.reverse.dropWhile (· = '0')).reverse

def exponentText (exponent : Int) : List Char :=
  let digits := Nat.toDigits 10 exponent.natAbs
  (if exponent < 0 then '-' else '+') :: (List.replicate (2 - digits.length) '0' ++ digits)

/-- Digits laid out positionally, the leading one at `10^leading`. -/
def positional (digits : List Char) (leading : Int) : List Char :=
  match leading with
  | .ofNat place =>
    let whole := digits.take (place + 1)
    let fraction := digits.drop (place + 1)
    whole ++ List.replicate (place + 1 - whole.length) '0'
      ++ '.' :: (if fraction.isEmpty then ['0'] else fraction)
  | .negSucc place => '0' :: '.' :: (List.replicate place '0' ++ digits)

def scientific (digits : List Char) (leading : Int) : List Char :=
  let fraction := digits.drop 1
  digits.take 1 ++ (if fraction.isEmpty then [] else '.' :: fraction)
    ++ 'e' :: exponentText leading

def magnitudeText (units : Nat) : List Char :=
  if units = 0 then ['0', '.', '0']
  else
    let decimal := shortest units
    let written := Nat.toDigits 10 decimal.digits
    let leading : Int := decimal.exponent + written.length - 1
    let digits := dropTrailingZeros written
    if -4 ≤ leading && leading < 16 then positional digits leading else scientific digits leading

def toText : Binary64 → String
  | .nan => "nan"
  | .infinite negative => if negative then "-inf" else "inf"
  | .finite negative units =>
    String.ofList ((if negative then ['-'] else []) ++ magnitudeText units)

/-! ## Reading -/

def readDigit? (c : Char) : Option Nat :=
  if '0' ≤ c && c ≤ '9' then some (c.toNat - '0'.toNat) else none

/-- The leading digits as a number, how many there are, and the rest. -/
def readDigits : List Char → Nat → Nat → Nat × Nat × List Char
  | [], value, count => (value, count, [])
  | c :: rest, value, count =>
    match readDigit? c with
    | some digit => readDigits rest (10 * value + digit) (count + 1)
    | none => (value, count, c :: rest)

def readExponent? : List Char → Option Int
  | [] => some 0
  | marker :: rest =>
    if marker = 'e' || marker = 'E' then
      let (negative, rest) :=
        match rest with
        | '-' :: more => (true, more)
        | '+' :: more => (false, more)
        | more => (false, more)
      match readDigits rest 0 0 with
      | (value, count, []) =>
        if count = 0 then none else some (if negative then -(value : Int) else value)
      | _ => none
    else none

/-- Rounds `digits · 10^exponent`. Exponents so large or small that only infinity or zero can
result are not raised to a power. -/
def ofDecimal (negative : Bool) (digits : Nat) (exponent : Int) : Binary64 :=
  let size : Int := (Nat.toDigits 10 digits).length
  if digits = 0 || size + exponent < -400 then .finite negative 0
  else if 400 < size + exponent then .infinite negative
  else
    match exponent with
    | .ofNat power => nearest negative (digits * Nat.pow 10 power) 1
    | .negSucc power => nearest negative digits (Nat.pow 10 (power + 1))

def readMagnitude? (negative : Bool) (cs : List Char) : Option Binary64 :=
  let (whole, wholeCount, rest) := readDigits cs 0 0
  let (value, count, places, rest) :=
    match rest with
    | '.' :: more =>
      let (value, places, rest) := readDigits more whole 0
      (value, wholeCount + places, places, rest)
    | more => (whole, wholeCount, 0, more)
  if count = 0 then none
  else (readExponent? rest).map fun exponent => ofDecimal negative value (exponent - places)

/-- Reads a signed decimal, or the name of an infinity or of a NaN. -/
def ofText? (text : String) : Option Binary64 :=
  let (negative, rest) :=
    match text.toList with
    | '-' :: more => (true, more)
    | '+' :: more => (false, more)
    | more => (false, more)
  if rest = "nan".toList then some .nan
  else if rest = "inf".toList || rest = "infinity".toList then some (.infinite negative)
  else readMagnitude? negative rest

end BrokerMaps.Binary64
