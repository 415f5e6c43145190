import Memberwise.Number.Integer
import Memberwise.Number.Rounding

/-! # Decimal numbers

Decimal floating point numbers of any precision: a sign, a coefficient and an exponent of
ten, with signed zeros, infinities and not-a-numbers that carry a diagnostic payload.  The
text form writes the coefficient as it is, so that trailing zeros survive.
-/

namespace Memberwise

/-- A decimal floating point number; equal values may have different representations. -/
inductive Decimal where
  | finite (negative : Bool) (coefficient : Nat) (exponent : Int)
  | infinity (negative : Bool)
  | nan (negative signalling : Bool) (payload : Nat)
deriving DecidableEq, Repr, Inhabited

namespace Decimal

def ofInt (n : Int) : Decimal := .finite (n < 0) n.natAbs 0

def zero : Decimal := .finite false 0 0

def isTrue : Decimal → Bool
  | .finite _ coefficient _ => coefficient != 0
  | _ => true

/-- The exponent of the leading digit. -/
def adjusted (coefficient : Nat) (exponent : Int) : Int :=
  exponent + (digitCount coefficient - 1 : Nat)

/-- A signed exponent as it stands after the exponent mark. -/
def exponentText (e : Int) : List Char :=
  (if e < 0 then '-' else '+') :: naturalText e.natAbs

/-- The digits of a coefficient with the point placed by the exponent: positional if the
exponent is not positive and at most five zeros follow the point, scientific otherwise. -/
def magnitudeText (coefficient : Nat) (exponent : Int) : List Char :=
  let digits := naturalText coefficient
  let leading := adjusted coefficient exponent
  if exponent ≤ 0 ∧ -6 ≤ leading then
    let places := exponent.natAbs
    if places = 0 then digits
    else if places < digits.length then
      digits.take (digits.length - places) ++ '.' :: digits.drop (digits.length - places)
    else '0' :: '.' :: List.replicate (places - digits.length) '0' ++ digits
  else
    match digits with
    | [] => []
    | first :: others =>
      first :: (if others.isEmpty then [] else '.' :: others) ++ 'E' :: exponentText leading

/-- The text of a decimal number, from which it can be read back exactly. -/
def text : Decimal → List Char
  | .finite negative coefficient exponent =>
      (if negative then ['-'] else []) ++ magnitudeText coefficient exponent
  | .infinity negative => (if negative then ['-'] else []) ++ "Infinity".toList
  | .nan negative signalling payload =>
      (if negative then ['-'] else []) ++ (if signalling then ['s'] else []) ++ "NaN".toList ++
        (if payload = 0 then [] else naturalText payload)

def round (negative : Bool) (coefficient : Nat) (exponent : Int) : Int :=
  signed negative <|
    if 0 ≤ exponent then coefficient * Nat.pow 10 exponent.toNat
    else if digitCount coefficient < exponent.natAbs then 0
    else nearestEven coefficient (Nat.pow 10 exponent.natAbs)

end Decimal

/-- A number as written: a sign, its digits without the point, and the exponent of ten. -/
structure Numeral where
  negative : Bool
  digits : List Nat
  exponent : Int
deriving DecidableEq, Repr

/-- The longest run of digits at the head of a text, and the rest. -/
def takeDigits : List Char → List Nat × List Char
  | [] => ([], [])
  | c :: rest =>
    match Text.digitValue? c with
    | some digit => let (digits, rest) := takeDigits rest; (digit :: digits, rest)
    | none => ([], c :: rest)

/-- An exponent part that ends the text; no text at all stands for zero. -/
def readExponent? : List Char → Option Int
  | [] => some 0
  | mark :: rest =>
    if mark == 'e' || mark == 'E' then
      let (negative, body) := scanSign rest
      match takeDigits body with
      | (digit :: digits, []) => some (signed negative (ofDigits (digit :: digits)))
      | _ => none
    else none

/-- Reads an unsigned numeral: digits with an optional point, of which at least one stands on
either side of it, and an optional exponent. -/
def readNumeral? (negative : Bool) (text : List Char) : Option Numeral :=
  let (whole, rest) := takeDigits text
  let (fraction, rest) :=
    match rest with
    | '.' :: rest => takeDigits rest
    | rest => ([], rest)
  if whole.isEmpty && fraction.isEmpty then none
  else (readExponent? rest).map fun e => ⟨negative, whole ++ fraction, e - fraction.length⟩

/-- Letters without case, other characters as they are. -/
def lowerAscii (text : List Char) : List Char := text.map Char.toLower

namespace Decimal

def maxExponent : Int := 999999999999999999

def minExponent : Int := -1999999999999999997

/-- Why a text is not read as a decimal number. -/
inductive ReadFault where
  | malformed
  | outOfRange
deriving DecidableEq, Repr

/-- The rest of a text after a word, if it starts with it. -/
def afterWord? (word text : List Char) : Option (List Char) :=
  if word.isPrefixOf text then some (text.drop word.length) else none

/-- Reads the payload of a not-a-number. -/
def readPayload? (text : List Char) : Option Nat :=
  match takeDigits text with
  | (digits, []) => some (ofDigits digits)
  | _ => none

/-- Reads a decimal number.  Underscores are ignored wherever they stand. -/
def read (text : List Char) : Except ReadFault Decimal :=
  let (negative, body) := scanSign (text.filter (· != '_'))
  let lower := lowerAscii body
  if lower == "inf".toList || lower == "infinity".toList then .ok (.infinity negative)
  else
    match afterWord? "nan".toList lower, afterWord? "snan".toList lower with
    | some payload, _ =>
      match readPayload? payload with
      | some n => .ok (.nan negative false n)
      | none => .error .malformed
    | none, some payload =>
      match readPayload? payload with
      | some n => .ok (.nan negative true n)
      | none => .error .malformed
    | none, none =>
      match readNumeral? negative body with
      | none => .error .malformed
      | some numeral =>
        let coefficient := ofDigits numeral.digits
        if adjusted coefficient numeral.exponent ≤ maxExponent ∧ minExponent ≤ numeral.exponent
        then .ok (.finite negative coefficient numeral.exponent)
        else .error .outOfRange

/-- The most digits that the result of an addition keeps. -/
def precision : Nat := 28

/-- The greatest exponent that the leading digit of the result of an addition may have. -/
def maxResult : Int := 999999

/-- The least exponent that the result of an addition may have. -/
def minResult : Int := -1000026

/-- Why a decimal number has no double. -/
inductive SumFault where
  | signalling
  | overflow
deriving DecidableEq, Repr

/-- Rounds a coefficient to the precision of results and to their range of exponents. -/
def finish (negative : Bool) (coefficient : Nat) (exponent : Int) : Except SumFault Decimal :=
  if coefficient = 0 then .ok (.finite negative 0 (min (max exponent minResult) maxResult))
  else
    let excess := max ((digitCount coefficient : Int) - precision) (minResult - exponent)
    let (coefficient, exponent) :=
      if excess ≤ 0 then (coefficient, exponent)
      else if digitCount coefficient < excess then (0, exponent + excess)
      else
        let rounded := nearestEven coefficient (Nat.pow 10 excess.toNat)
        if precision < digitCount rounded then (rounded / 10, exponent + excess + 1)
        else (rounded, exponent + excess)
    if maxResult < adjusted coefficient exponent then .error .overflow
    else .ok (.finite negative coefficient exponent)

def double : Decimal → Except SumFault Decimal
  | .finite negative coefficient exponent => finish negative (2 * coefficient) exponent
  | .infinity negative => .ok (.infinity negative)
  | .nan negative false payload => .ok (.nan negative false (payload % Nat.pow 10 precision))
  | .nan _ true _ => .error .signalling

end Decimal

end Memberwise
