import Memberwise.Text.Digit

/-! # Integers as text

Integers are written in decimal.  Neither direction handles more than 4300 digits, because
the cost of the change of base grows with the square of their number.
-/

namespace Memberwise

/-- The most digits an integer may have to be read from or written as text. -/
def digitLimit : Nat := 4300

def digitCount (n : Nat) : Nat := (Nat.toDigits 10 n).length

theorem digitCount_pos (n : Nat) : 0 < digitCount n := Nat.length_toDigits_pos

/-- The number that a list of digits denotes. -/
def ofDigits (digits : List Nat) : Nat :=
  digits.foldl (fun value digit => 10 * value + digit) 0

def naturalText (n : Nat) : List Char := Nat.toDigits 10 n

/-- The decimal text of an integer, whatever its size. -/
def integerText (n : Int) : List Char :=
  if n < 0 then '-' :: naturalText n.natAbs else naturalText n.natAbs

/-- The decimal text of an integer, unless it has too many digits. -/
def integerText? (n : Int) : Option (List Char) :=
  if digitCount n.natAbs ≤ digitLimit then some (integerText n) else none

/-- Why a text is not read as an integer. -/
inductive IntegerFault where
  | malformed
  /-- The text has more digits than are read. -/
  | tooManyDigits (count : Nat)
deriving DecidableEq, Repr

/-- The digits at the head of a text, with single underscores between them, and the rest.
Nothing is returned where an underscore is doubled or ends the digits. -/
def scanDigits (afterUnderscore : Bool) : List Char → Option (List Nat × List Char)
  | [] => if afterUnderscore then none else some ([], [])
  | c :: rest =>
    match Text.digitValue? c with
    | some digit => (scanDigits false rest).map fun (digits, rest) => (digit :: digits, rest)
    | none =>
      if c == '_' then if afterUnderscore then none else scanDigits true rest
      else if afterUnderscore then none
      else some ([], c :: rest)

/-- The sign at the head of a text: whether it is a minus, and the rest. -/
def scanSign : List Char → Bool × List Char
  | '-' :: rest => (true, rest)
  | '+' :: rest => (false, rest)
  | text => (false, text)

/-- Reads an integer: a sign, then decimal digits of any script with single underscores
between them. -/
def readInteger (text : List Char) : Except IntegerFault Int :=
  let (negative, body) := scanSign text
  if body.head? == some '_' then .error .malformed
  else
    match scanDigits false body with
    | none => .error .malformed
    | some (digits, rest) =>
      if digitLimit < digits.length then .error (.tooManyDigits digits.length)
      else if digits.isEmpty || !rest.isEmpty then .error .malformed
      else .ok (if negative then -(ofDigits digits : Int) else ofDigits digits)

end Memberwise
