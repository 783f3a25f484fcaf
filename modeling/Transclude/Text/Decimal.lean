/-!
Decimal numbers, their nearest numbers of double precision, and the shortest decimals that stand
for these. All arithmetic is exact.
-/

namespace Transclude

/-- The number `digits * 10 ^ exponent`. -/
structure Decimal where
  digits : Nat
  exponent : Int
  deriving DecidableEq, Repr, Inhabited

/-- The number `significand * 2 ^ exponent`. -/
structure Double where
  significand : Nat
  exponent : Int
  deriving DecidableEq, Repr, Inhabited

def scaled (base number : Nat) (exponent : Int) : Nat × Nat :=
  match exponent with
  | .ofNat n => (number * Nat.pow base n, 1)
  | .negSucc n => (number, Nat.pow base (n + 1))

/-- A quotient rounded to the nearest number; halves go to the even neighbour. -/
def roundQuotient (numerator denominator : Nat) : Nat :=
  let quotient := numerator / denominator
  let twice := 2 * (numerator % denominator)
  if twice < denominator || (twice = denominator && quotient % 2 = 0) then quotient
  else quotient + 1

namespace Double

/-- The significand has at most this many bits. -/
def precision : Nat := 53

def minExponent : Int := -1074

def maxExponent : Int := 971

def ofQuotient? (numerator denominator : Nat) : Option Double :=
  let guess : Int := (Nat.log2 numerator : Int) - Nat.log2 denominator - precision
  let scaledTo (exponent : Int) : Nat × Nat :=
    let (num, scale) := scaled 2 numerator (-exponent)
    (num, denominator * scale)
  let (num, den) := scaledTo guess
  let exponent := max minExponent (if num < den * Nat.pow 2 precision then guess else guess + 1)
  let (num, den) := scaledTo exponent
  let significand := roundQuotient num den
  let rounded : Double :=
    if significand = Nat.pow 2 precision then ⟨Nat.pow 2 (precision - 1), exponent + 1⟩
    else ⟨significand, exponent⟩
  if rounded.exponent > maxExponent then none else some rounded

/-- A multiple of a power of ten that rounds to a number, if one of its two neighbours among these
multiples does; where both do, the nearer one. -/
def onGrid? (x : Double) (power : Int) : Option Decimal :=
  let low := 4 * x.significand -
    (if x.significand = Nat.pow 2 (precision - 1) && x.exponent > minExponent then 1 else 2)
  let high := 4 * x.significand + 2
  let inclusive := x.significand % 2 = 0
  -- One quarter of the last place is `unit / grid` steps of the grid.
  let (unit, below) := scaled 2 1 (x.exponent - 2)
  let (ten, above) := scaled 10 1 power
  let unit := unit * above
  let grid := ten * below
  let floor := 4 * x.significand * unit / grid
  let rounds (point : Nat) : Bool :=
    let p := point * grid
    if inclusive then low * unit ≤ p && p ≤ high * unit else low * unit < p && p < high * unit
  let remainder := 4 * x.significand * unit % grid
  let nearer := if 2 * remainder ≤ grid then floor else floor + 1
  let other := if 2 * remainder ≤ grid then floor + 1 else floor
  if rounds nearer then some ⟨nearer, power⟩
  else if rounds other then some ⟨other, power⟩
  else none

/-- The decimal with the fewest digits that rounds to a number. -/
def shortest (x : Double) : Decimal :=
  if x.significand = 0 then ⟨0, 0⟩
  else
    ((List.range 700).findSome? fun (n : Nat) => x.onGrid? (310 - (n : Int))).getD ⟨0, 0⟩

end Double

namespace Decimal

/-- The nearest number of double precision, if it is in range. -/
def toDouble? (d : Decimal) : Option Double :=
  let magnitude : Int := (Nat.toDigits 10 d.digits).length + d.exponent
  if d.digits = 0 || magnitude < -330 then some ⟨0, Double.minExponent⟩
  else if magnitude > 310 then none
  else
    let (numerator, denominator) := scaled 10 d.digits d.exponent
    Double.ofQuotient? numerator denominator

/-- A decimal without an exponent and with at least one digit on either side of the point. -/
def positional (d : Decimal) : String :=
  let digits := Nat.toDigits 10 d.digits
  match d.exponent with
  | .ofNat n => String.ofList (digits ++ List.replicate (if d.digits = 0 then 0 else n) '0') ++ ".0"
  | .negSucc n =>
    let places := n + 1
    let padded := List.replicate (places + 1 - digits.length) '0' ++ digits
    String.ofList (padded.take (padded.length - places)) ++ "." ++
      String.ofList (padded.drop (padded.length - places))

end Decimal

end Transclude
