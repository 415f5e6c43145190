import Memberwise.Number.Binary64.Shortest
import Memberwise.Number.Decimal
import Memberwise.Text.Blank

/-! # Text of binary numbers

Writing takes the shortest decimal; it is positional while the leading digit lies between
four places behind the point and sixteen before it, else scientific with an exponent of at
least two digits.  Reading rounds the written decimal to nearest.
-/

namespace Memberwise.Binary64

/-- An exponent of at least two digits after its sign. -/
def exponentText (e : Int) : List Char :=
  let digits := naturalText e.natAbs
  (if e < 0 then '-' else '+') :: (if digits.length < 2 then '0' :: digits else digits)

/-- Decimal digits with the point behind the given number of them. -/
def layout (digits : List Char) (point : Int) : List Char :=
  if -4 < point ∧ point ≤ 16 then
    if point ≤ 0 then '0' :: '.' :: List.replicate point.natAbs '0' ++ digits
    else if point < digits.length then
      digits.take point.toNat ++ '.' :: digits.drop point.toNat
    else digits ++ List.replicate (point.toNat - digits.length) '0' ++ ['.', '0']
  else
    match digits with
    | [] => []
    | first :: others =>
      first :: (if others.isEmpty then [] else '.' :: others) ++ 'e' :: exponentText (point - 1)

def text : Binary64 → List Char
  | .finite negative significand exponent _ =>
    let (coefficient, power) := shortest significand exponent
    let digits := naturalText coefficient
    (if negative then ['-'] else []) ++ layout digits (digits.length + power)
  | .infinity negative => (if negative then ['-'] else []) ++ ['i', 'n', 'f']
  | .nan => ['n', 'a', 'n']

/-- The value nearest to a decimal.  Decimals far outside the range of the format are settled
by their leading exponent alone. -/
def ofDecimal (negative : Bool) (coefficient : Nat) (exponent : Int) : Binary64 :=
  if coefficient = 0 then zero negative
  else
    let leading := Decimal.adjusted coefficient exponent
    if 310 < leading then .infinity negative
    else if leading < -400 then zero negative
    else if 0 ≤ exponent then ofRatio negative (coefficient * Nat.pow 10 exponent.toNat) 1
    else ofRatio negative coefficient (Nat.pow 10 exponent.natAbs)

def ofNumeral (numeral : Numeral) : Binary64 :=
  ofDecimal numeral.negative (ofDigits numeral.digits) numeral.exponent

/-- Removes underscores, each of which must stand between two digits. -/
def joinDigits? (afterDigit : Bool) : List Char → Option (List Char)
  | [] => some []
  | c :: rest =>
    if c == '_' then
      match rest with
      | d :: _ =>
        if afterDigit && (Text.digitValue? d).isSome then joinDigits? false rest else none
      | [] => none
    else (joinDigits? (Text.digitValue? c).isSome rest).map (c :: ·)

/-- Reads the words for special values, in any case. -/
def readWord? (negative : Bool) (text : List Char) : Option Binary64 :=
  let lower := lowerAscii text
  if lower == "inf".toList || lower == "infinity".toList then some (.infinity negative)
  else if lower == "nan".toList then some .nan
  else none

/-- Reads a signed number or special value that fills the text. -/
def readBare? (text : List Char) : Option Binary64 :=
  let (negative, body) := scanSign text
  (readWord? negative body).or ((readNumeral? negative body).map ofNumeral)

/-- Reads a number between white space, with underscores between its digits. -/
def read? (text : List Char) : Option Binary64 :=
  (joinDigits? false (Text.trimBy Text.isWhiteSpace text)).bind readBare?

end Memberwise.Binary64
