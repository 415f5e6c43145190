import Memberwise.Number.Rounding

/-! # Binary floating point numbers

The values of the 64-bit binary interchange format, each with its exact meaning: a sign, a
significand and an exponent of two in the one form that the format can hold.  Whatever is not
exact is rounded once, to nearest with ties to even.
-/

namespace Memberwise

/-- The one pair of significand and exponent that the format has for a value: a full
significand, or the least exponent. -/
def Binary64.Canonical (significand : Nat) (exponent : Int) : Prop :=
  significand < Nat.pow 2 53 ∧ -1074 ≤ exponent ∧ exponent ≤ 971 ∧
    (Nat.pow 2 52 ≤ significand ∨ exponent = -1074)

instance (significand : Nat) (exponent : Int) :
    Decidable (Binary64.Canonical significand exponent) :=
  inferInstanceAs (Decidable (_ ∧ _))

/-- A value of the format; a finite one is `± significand * 2 ^ exponent`. -/
inductive Binary64 where
  | finite (negative : Bool) (significand : Nat) (exponent : Int)
      (canonical : Binary64.Canonical significand exponent)
  | infinity (negative : Bool)
  | nan
deriving DecidableEq

namespace Binary64

def zero (negative : Bool) : Binary64 := .finite negative 0 (-1074) (by decide)

instance : Inhabited Binary64 := ⟨zero false⟩

/-- A significand that rounding may have carried into one more binary place, as a value of the
format; infinite if its exponent is too large. -/
def pack (negative : Bool) (significand : Nat) (exponent : Int) : Binary64 :=
  if h : Canonical significand exponent then .finite negative significand exponent h
  else if h : Canonical (significand / 2) (exponent + 1) then
    .finite negative (significand / 2) (exponent + 1) h
  else .infinity negative

/-- A positive quotient times a power of two, as a quotient. -/
def scale (num den : Nat) (power : Int) : Nat × Nat :=
  if 0 ≤ power then (num * Nat.pow 2 power.toNat, den) else (num, den * Nat.pow 2 power.natAbs)

/-- The exponent of two with which a quotient has a full significand, but no less than the
least exponent of the format. -/
def exponentFor (num den : Nat) : Int :=
  let guess : Int := (num.log2 : Int) - den.log2
  let (scaled, unit) := scale num den (-guess)
  let leading := if unit ≤ scaled then guess else guess - 1
  max (leading - 52) (-1074)

/-- The value nearest to a quotient. -/
def ofRatio (negative : Bool) (num den : Nat) : Binary64 :=
  if num = 0 then zero negative
  else
    let exponent := exponentFor num den
    let (scaled, unit) := scale num den (-exponent)
    pack negative (nearestEven scaled unit) exponent

def ofInt (n : Int) : Binary64 := ofRatio (n < 0) n.natAbs 1

/-- The magnitude of a finite value as a quotient. -/
def ratio (significand : Nat) (exponent : Int) : Nat × Nat := scale significand 1 exponent

def isFinite : Binary64 → Bool
  | .finite .. => true
  | _ => false

/-- A number is true unless it is a zero. -/
def isTrue : Binary64 → Bool
  | .finite _ significand _ _ => significand != 0
  | _ => true

/-- The nearest integer of a finite value, a tie going to the even neighbour. -/
def round (negative : Bool) (significand : Nat) (exponent : Int) : Int :=
  let (num, den) := ratio significand exponent
  signed negative (nearestEven num den)

/-- The integer that a value is, if it is one. -/
def toInt? : Binary64 → Option Int
  | .finite negative significand exponent _ =>
    let (num, den) := ratio significand exponent
    if num % den = 0 then some (signed negative (num / den)) else none
  | _ => none

def double : Binary64 → Binary64
  | .finite negative significand exponent _ =>
    let (num, den) := ratio significand exponent
    ofRatio negative (2 * num) den
  | value => value

end Binary64

end Memberwise
