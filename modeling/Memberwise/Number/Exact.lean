import Memberwise.Number.Binary64
import Memberwise.Number.Binary64.Shortest
import Memberwise.Number.Decimal

/-! # Exact numbers

Integers, decimal numbers and finite binary numbers all denote finite decimals.  Bringing each
to the one form without trailing zeros makes equality across the kinds plain equality.
-/

namespace Memberwise

/-- A finite decimal `coefficient * 10 ^ exponent`, without trailing zeros. -/
structure Exact where
  coefficient : Int
  exponent : Int
deriving DecidableEq, Repr

namespace Exact

/-- The normal form of a finite decimal. -/
def normal (negative : Bool) (coefficient : Nat) (exponent : Int) : Exact :=
  if coefficient = 0 then ⟨0, 0⟩
  else
    let (coefficient, exponent) :=
      Binary64.dropZeros (digitCount coefficient) coefficient exponent
    ⟨signed negative coefficient, exponent⟩

def ofInt (n : Int) : Exact := normal (n < 0) n.natAbs 0

def ofDecimal? : Decimal → Option Exact
  | .finite negative coefficient exponent => some (normal negative coefficient exponent)
  | _ => none

/-- A power of two below one is a decimal, because a half is five tenths. -/
def ofBinary64? : Binary64 → Option Exact
  | .finite negative significand exponent _ =>
    some <| if 0 ≤ exponent then normal negative (significand * Nat.pow 2 exponent.toNat) 0
      else normal negative (significand * Nat.pow 5 exponent.natAbs) exponent
  | _ => none

end Exact

end Memberwise
