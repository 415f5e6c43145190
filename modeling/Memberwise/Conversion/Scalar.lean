import Memberwise.Calendar.Iso
import Memberwise.TypeExpr.Render

/-! # Conversion between scalars

The six scalar classes convert into one another by rules of their own: numbers by value, half
way cases to even, texts by what they say, and moments from text only.
-/

namespace Memberwise

/-- The scalar classes that convert into one another. -/
inductive ScalarKind where
  | bool | int | float | decimal | str | datetime
deriving DecidableEq, Repr

namespace ScalarKind

def builtin : ScalarKind → Builtin
  | bool => .bool
  | int => .int
  | float => .float
  | decimal => .decimal
  | str => .str
  | datetime => .datetime

/-- All scalar classes; a class comes before those that it descends from. -/
def all : List ScalarKind := [bool, int, float, decimal, str, datetime]

end ScalarKind

namespace Classes

/-- The scalar class that a class descends from.  Enumerations are no scalars. -/
def scalarKind? (classes : Classes) (c : ClassRef) : Option ScalarKind :=
  if classes.isEnumeration c then none
  else ScalarKind.all.find? fun kind => classes.descendsFrom c kind.builtin

end Classes

namespace Conversion

abbrev Outcome := Except String Atom

/-- The wording for an integer that does not fit into a binary number. -/
def tooLargeForFloat : String := "int too large to convert to float"

/-- A text in quotes, cut to a given length. -/
def quotedUpTo (limit : Nat) (text : List Char) : String :=
  String.ofList ((Text.quoted text).take limit)

def toBool : Atom → Outcome
  | .bool b => .ok (.bool b)
  | .int n => .ok (.bool (n != 0))
  | .float x => .ok (.bool x.isTrue)
  | .decimal d => .ok (.bool d.isTrue)
  | .str s =>
    let word := lowerAscii (Text.trim s.toList)
    if word == "true".toList then .ok (.bool true)
    else if word == "false".toList then .ok (.bool false)
    else .error ("String " ++ Text.quote s ++ " is not a valid boolean")
  | .datetime _ => .error "datetime has no boolean value"
  | _ => .error ""

/-- The nearest integer of a binary number, a tie going to the even neighbour. -/
def roundFloat : Binary64 → Except String Int
  | .finite negative significand exponent _ => .ok (Binary64.round negative significand exponent)
  | .infinity _ => .error "cannot convert float infinity to integer"
  | .nan => .error "cannot convert float NaN to integer"

/-- The nearest integer of a decimal number, a tie going to the even neighbour. -/
def roundDecimal : Decimal → Except String Int
  | .finite negative coefficient exponent => .ok (Decimal.round negative coefficient exponent)
  | .infinity _ => .error "cannot convert Infinity to integer"
  | .nan .. => .error "cannot convert NaN to integer"

def intOfText (s : String) : Except String Int :=
  let text := Text.trim s.toList
  match readInteger text with
  | .ok n => .ok n
  | .error .malformed =>
    .error ("invalid literal for int() with base 10: " ++ quotedUpTo 200 text)
  | .error (.tooManyDigits count) =>
    .error ("Exceeds the limit (4300 digits) for integer string conversion: value has " ++
      toString count ++ " digits; use sys.set_int_max_str_digits() to increase the limit")

def toInt : Atom → Outcome
  | .bool b => .ok (.int (if b then 1 else 0))
  | .int n => .ok (.int n)
  | .float x => (roundFloat x).map .int
  | .decimal d => (roundDecimal d).map .int
  | .str s => (intOfText s).map .int
  | .datetime _ => .error "datetime has no integer value"
  | _ => .error ""

def toFloat : Atom → Outcome
  | .bool b => .ok (.float (.ofInt (if b then 1 else 0)))
  | .int n =>
    let x := Binary64.ofInt n
    if x.isFinite then .ok (.float x) else .error tooLargeForFloat
  | .float x => .ok (.float x)
  | .decimal (.finite negative coefficient exponent) =>
    .ok (.float (.ofDecimal negative coefficient exponent))
  | .decimal (.infinity negative) => .ok (.float (.infinity negative))
  | .decimal (.nan _ signalling _) =>
    if signalling then .error "cannot convert signaling NaN to float" else .ok (.float .nan)
  | .str s =>
    match Binary64.read? s.toList with
    | some x => .ok (.float x)
    | none => .error ("could not convert string to float: " ++ Text.quote s)
  | .datetime _ => .error "datetime has no float value"
  | _ => .error ""

def decimalOfText (text : List Char) : Except String Decimal :=
  match Decimal.read (Text.trim text) with
  | .ok d => .ok d
  | .error .malformed => .error "[<class 'decimal.ConversionSyntax'>]"
  | .error .outOfRange => .error "[<class 'decimal.InvalidOperation'>]"

def toDecimal : Atom → Outcome
  | .bool b => .ok (.decimal (.ofInt (if b then 1 else 0)))
  | .int n => .ok (.decimal (.ofInt n))
  | .float x => (decimalOfText x.text).map .decimal
  | .decimal d => .ok (.decimal d)
  | .str s => (decimalOfText s.toList).map .decimal
  | .datetime _ => .error "datetime has no decimal value"
  | _ => .error ""

/-- The text of a scalar; an integer of too many digits has none. -/
def toText : Atom → Outcome
  | .bool b => .ok (.str (if b then "True" else "False"))
  | .int n =>
    match integerText? n with
    | some text => .ok (.str (String.ofList text))
    | none =>
      .error ("Exceeds the limit (4300 digits) for integer string conversion; " ++
        "use sys.set_int_max_str_digits() to increase the limit")
  | .float x => .ok (.str (String.ofList x.text))
  | .decimal d => .ok (.str (String.ofList d.text))
  | .str s => .ok (.str s)
  | .datetime m => .ok (.str (String.ofList m.text))
  | _ => .error ""

/-- The wording for a text that is not read as a moment. -/
def isoFaultMessage (text : List Char) : Iso.Fault → String
  | .malformed => "Invalid isoformat string: " ++ String.ofList (Text.quoted text)
  | .offset micros =>
    let rest := (micros.fmod day).toNat
    "offset must be a timedelta strictly between -timedelta(hours=24) and timedelta(hours=24), " ++
      "not " ++ String.ofList
        (spanParts (micros.fdiv day) (rest / 1000000) (rest % 1000000)) ++ "."
  | .date fault => fault.message
  | .clock fault => fault.message

/-- The moment that a scalar names; `className` is that of the value. -/
def toMoment (className : String) : Atom → Outcome
  | .str s =>
    let text := Text.trim s.toList
    match Iso.read text with
    | .ok m => .ok (.datetime m)
    | .error fault => .error (isoFaultMessage text fault)
  | _ => .error (className ++ " can't be read as a datetime")

def convertScalar (className : String) (target : ScalarKind) (a : Atom) : Outcome :=
  match target with
  | .bool => toBool a
  | .int => toInt a
  | .float => toFloat a
  | .decimal => toDecimal a
  | .str => toText a
  | .datetime => toMoment className a

end Conversion

end Memberwise
