import Memberwise.Number.Binary64
import Memberwise.Number.Integer

/-! # Shortest decimal of a binary number

A finite value is written with the fewest decimal digits that still read back as the same
value; of several decimals of that length the nearest is taken.
-/

namespace Memberwise.Binary64

/-- The reals that round to a value, as quotients over four times the unit in the last place:
lower end, value, upper end, and whether the ends belong. -/
structure Neighbourhood where
  lower : Nat
  middle : Nat
  upper : Nat
  denominator : Nat
  closed : Bool
deriving Repr

/-- The neighbourhood of a positive value.  Below a power of two the spacing is halved. -/
def neighbourhood (significand : Nat) (exponent : Int) : Neighbourhood :=
  let (unit, den) := scale 1 4 exponent
  let below := if significand = Nat.pow 2 52 ∧ -1074 < exponent then 1 else 2
  ⟨(4 * significand - below) * unit, 4 * significand * unit, (4 * significand + 2) * unit,
    den, significand % 2 = 0⟩

/-- The exponent of the leading decimal digit of a positive quotient. -/
def leadingExponent (num den : Nat) : Int :=
  if den ≤ num then (digitCount (num / den) : Int) - 1 else -(digitCount (den / num) : Int)

/-- A quotient divided by a power of ten. -/
def unscale (num den : Nat) (power : Int) : Nat × Nat :=
  if 0 ≤ power then (num, den * Nat.pow 10 power.toNat) else (num * Nat.pow 10 power.natAbs, den)

/-- Whether a decimal lies in a neighbourhood. -/
def Neighbourhood.holds (near : Neighbourhood) (coefficient : Nat) (exponent : Int) : Bool :=
  let (lower, den) := unscale near.lower near.denominator exponent
  let (upper, _) := unscale near.upper near.denominator exponent
  if near.closed then lower ≤ coefficient * den ∧ coefficient * den ≤ upper
  else lower < coefficient * den ∧ coefficient * den < upper

/-- The nearest decimal on a grid that lies in a neighbourhood: the nearer neighbour of the
value on the grid, or else the other one. -/
def Neighbourhood.onGrid? (near : Neighbourhood) (exponent : Int) : Option Nat :=
  let (num, den) := unscale near.middle near.denominator exponent
  let nearest := nearestEven num den
  let other := if nearest = num / den then num / den + 1 else num / den
  if near.holds nearest exponent then some nearest
  else if near.holds other exponent then some other
  else none

/-- Moves trailing zeros of a coefficient into the exponent. -/
def dropZeros : (fuel : Nat) → (coefficient : Nat) → (exponent : Int) → Nat × Int
  | 0, coefficient, exponent => (coefficient, exponent)
  | fuel + 1, coefficient, exponent =>
    if coefficient ≠ 0 ∧ coefficient % 10 = 0 then
      dropZeros fuel (coefficient / 10) (exponent + 1)
    else (coefficient, exponent)

/-- The shortest decimal, as coefficient and exponent, of a finite value.  Seventeen digits
always suffice. -/
def shortest (significand : Nat) (exponent : Int) : Nat × Int :=
  if significand = 0 then (0, 0)
  else
    let near := neighbourhood significand exponent
    let leading := leadingExponent near.middle near.denominator
    let found := (List.range 17).findSome? fun (more : Nat) =>
      (near.onGrid? (leading - more)).map fun coefficient => (coefficient, leading - more)
    let (coefficient, exponent) := found.getD (0, 0)
    dropZeros (digitCount coefficient) coefficient exponent

end Memberwise.Binary64
