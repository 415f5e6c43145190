import Memberwise.Converter
import Memberwise.Text.Bytes
import Memberwise.Text.Fold
import Memberwise.World.Collection
import Memberwise.World.Create

/-! # Application of converters

What becomes of a value when a custom converter is applied to it.  A converter is a function of what
the value holds: it changes no object, and what it makes is new or passed on.  Functions that write to
objects or keep a state of their own are left out.
-/

namespace Memberwise

/-- Whether an atom that is no enumeration member is something rather than nothing. -/
def Atom.isTrue : Atom → Bool
  | .none => false
  | .bool b => b
  | .int n => n != 0
  | .float x => x.isTrue
  | .complex re im => re.isTrue || im.isTrue
  | .str s => !s.isEmpty
  | .bytes content => !content.isEmpty
  | .decimal d => d.isTrue
  | .timedelta span => span.micros != 0
  | _ => true

/-- Letters of the alphabet as capitals, other bytes as they are. -/
def upperByte (b : UInt8) : UInt8 := if 97 ≤ b ∧ b ≤ 122 then b - 32 else b

/-- A binary number as the decimal number of the same value. -/
def Decimal.ofBinary64 : Binary64 → Decimal
  | .finite negative significand exponent _ =>
    let (num, den) := Binary64.ratio significand exponent
    let divisor := Nat.gcd num den
    let (num, den) := (num / divisor, den / divisor)
    let places := den.log2
    .finite negative (num * Nat.pow 5 places) (-places)
  | .infinity negative => .infinity negative
  | .nan => .nan false false 0

namespace World

/-- The scalar that a slot holds, wraps, or has as value of an enumeration with a scalar
base. -/
def scalarOf? (w : World) : Slot → Option Atom
  | .atom a => w.classes.scalarOf? (.atom a)
  | .ref p =>
    match w.store.get? p with
    | some (.object _ core _) => core
    | _ => none

/-- The elements of a collection of a predefined kind. -/
def predefinedItems? (w : World) : Slot → Option (SeqKind × List Slot)
  | .atom _ => none
  | .ref p =>
    match w.store.get? p with
    | some (.seq (.bag _) _) | some (.seq (.iterator _) _) => none
    | some (.seq kind items) => some (kind, items)
    | _ => none

/-- Whether an object is something rather than nothing: an empty collection is nothing. -/
def isTrue (w : World) (slot : Slot) : Bool :=
  match w.scalarOf? slot with
  | some a => a.isTrue
  | none =>
    match slot with
    | .atom _ => true
    | .ref p =>
      match w.store.get? p with
      | some (.dict entries) => !entries.isEmpty
      | _ => ((w.predefinedItems? slot).map fun (_, items) => !items.isEmpty).getD true

def lengthOf? (w : World) (slot : Slot) : Option Nat :=
  match w.scalarOf? slot, slot with
  | some (.str s), _ => some s.length
  | some (.bytes content), _ => some content.length
  | some (.classRef (.declared name)), _ =>
    if w.classes.isEnumeration (.declared name) then some (w.classes.properMembers name).length
    else none
  | _, .ref p =>
    match w.store.get? p with
    | some (.dict entries) => some entries.length
    | _ => (w.predefinedItems? slot).map (·.2.length)
  | _, _ => none

def doubleDecimal (d : Decimal) : Except Fault Atom :=
  match d.double with
  | .ok sum => .ok (.decimal sum)
  | .error .signalling => .error .invalidDecimal
  | .error .overflow => .error .decimalOverflow

def doubleAtom : Atom → Except Fault Atom
  | .bool b => .ok (.int (if b then 2 else 0))
  | .int n => .ok (.int (2 * n))
  | .float x => .ok (.float x.double)
  | .complex re im => .ok (.complex re.double im.double)
  | .str s => .ok (.str (s ++ s))
  | .bytes content => .ok (.bytes (content ++ content))
  | .decimal d => doubleDecimal d
  | .timedelta span =>
    match span.double? with
    | some sum => .ok (.timedelta sum)
    | none => .error .overflow
  | _ => .error .typeMismatch

def double (w : World) (slot : Slot) : Except Fault (World × Slot) :=
  match w.scalarOf? slot, w.predefinedItems? slot with
  | some a, _ => (doubleAtom a).map fun a => (w, .atom a)
  | none, some (.set, _) | none, some (.frozenset, _) | none, none => .error .typeMismatch
  | none, some (kind, items) => .ok (w.alloc (.seq kind (items ++ items)))

def upper (w : World) (slot : Slot) : Except Fault (World × Slot) :=
  match w.scalarOf? slot, w.predefinedItems? slot with
  | some (.str s), _ => .ok (w, .atom (.str (Text.upper s)))
  | some (.bytes content), _ => .ok (w, .atom (.bytes (content.map upperByte)))
  | none, some (.bytearray, items) =>
    .ok (w.alloc (.seq .bytearray (items.map fun
      | .atom (.int n) => .atom (.int (upperByte (UInt8.ofNat n.toNat)).toNat)
      | v => v)))
  | _, _ => .error .missingAttribute

/-- The digits of a coefficient that is given as a collection. -/
def digitsOf? (w : World) (slot : Slot) : Option (List Nat) :=
  (w.predefinedItems? slot).bind fun (kind, items) =>
    if kind == .tuple || kind == .list then
      items.mapM fun
        | .atom (.int n) => if 0 ≤ n ∧ n < 10 then some n.toNat else none
        | .atom (.bool b) => some (if b then 1 else 0)
        | _ => none
    else none

/-- The decimal number that a sign, digits and an exponent name. -/
def decimalOfParts (w : World) : List Slot → Except Fault Decimal
  | [sign, digits, exponent] => do
    let negative ←
      match sign with
      | .atom (.int 0) | .atom (.bool false) => .ok false
      | .atom (.int 1) | .atom (.bool true) => .ok true
      | _ => .error (.value "sign must be an integer with the value 0 or 1")
    let coefficient ←
      match w.digitsOf? digits with
      | some digits => .ok (ofDigits digits)
      | none => .error (.value "coefficient must be a tuple of digits")
    match exponent with
    | .atom (.int e) => .ok (.finite negative coefficient e)
    | .atom (.bool b) => .ok (.finite negative coefficient (if b then 1 else 0))
    | .atom (.str "F") => .ok (.infinity negative)
    | .atom (.str "n") => .ok (.nan negative false coefficient)
    | .atom (.str "N") => .ok (.nan negative true coefficient)
    | .atom (.str _) =>
      .error (.value "string argument in the third position must be 'F', 'n' or 'N'")
    | _ => .error (.value "exponent must be an integer")
  | _ => .error (.value "argument must be a sequence of length 3")

def toDecimal (w : World) (slot : Slot) : Except Fault Decimal :=
  match w.scalarOf? slot, w.predefinedItems? slot with
  | some (.bool b), _ => .ok (.ofInt (if b then 1 else 0))
  | some (.int n), _ => .ok (.ofInt n)
  | some (.float x), _ => .ok (.ofBinary64 x)
  | some (.decimal d), _ => .ok d
  | some (.str s), _ =>
    match Decimal.read (Text.trim s.toList) with
    | .ok d => .ok d
    | .error _ => .error .invalidDecimal
  | none, some (.tuple, parts) | none, some (.list, parts) => w.decimalOfParts parts
  | _, _ => .error .typeMismatch

/-- The integer that an exact number has in front of its point. -/
def truncated (negative : Bool) (num den : Nat) : Int := signed negative (num / den)

/-- Reads an integer; the text is quoted as it is where it names none. -/
def readIntegerText (s : String) : Except Fault Int :=
  match readInteger (Text.trim s.toList) with
  | .ok n => .ok n
  | .error .malformed =>
    .error (.value ("invalid literal for int() with base 10: " ++
      Conversion.quotedUpTo 200 s.toList))
  | .error (.tooManyDigits count) => .error (.value (tooLongToRead count))

/-- A value as an integer, without what stands behind its point. -/
def toInteger (w : World) (slot : Slot) : Except Fault Int :=
  match w.scalarOf? slot with
  | some (.bool b) => .ok (if b then 1 else 0)
  | some (.int n) => .ok n
  | some (.float (.finite negative significand exponent _)) =>
    let (num, den) := Binary64.ratio significand exponent
    .ok (truncated negative num den)
  | some (.float .nan) => .error (.value "cannot convert float NaN to integer")
  | some (.float (.infinity _)) => .error .overflow
  | some (.decimal (.finite negative coefficient exponent)) =>
    if (digitCount coefficient : Int) + exponent ≤ 0 then .ok 0
    else
      .ok (truncated negative (coefficient * Nat.pow 10 exponent.toNat)
        (Nat.pow 10 (-exponent).toNat))
  | some (.decimal (.nan ..)) => .error (.value "cannot convert NaN to integer")
  | some (.decimal (.infinity _)) => .error .overflow
  | some (.str s) => readIntegerText s
  | some (.uuid n) => .ok n
  | some (.bytes content) =>
    match Text.decodeUtf8? content with
    | some s => readIntegerText s
    | none => .error (.value ("invalid literal for int() with base 10: " ++
        String.ofList (Text.quotedBytes content)))
  | _ => .error .typeMismatch

def toIntegers (w : World) (slot : Slot) : Except Fault (World × Slot) :=
  match slot with
  | .atom _ => .error .missingAttribute
  | .ref p =>
    match w.store.get? p with
    | some (.dict entries) => do
      let entries ← entries.mapM fun (k, v) => do .ok (k, Slot.atom (.int (← w.toInteger v)))
      .ok (w.alloc (.dict entries))
    | _ => .error .missingAttribute

def toText (w : World) (slot : Slot) : Except Fault (World × Slot) :=
  match w.classes.plainText (w.load slot) with
  | .ok text => .ok (w, .atom (.str (String.ofList text)))
  | .error fault => .error fault.fault

/-- What a function makes of a value. -/
def applyFunction (w : World) (f : Function) (slot : Slot) : Except Fault (World × Slot) :=
  match f with
  | .identity => .ok (w, slot)
  | .text => w.toText slot
  | .double => w.double slot
  | .isNone => .ok (w, .atom (.bool slot.isNone))
  | .length =>
    match w.lengthOf? slot with
    | some n => .ok (w, .atom (.int n))
    | none => .error .typeMismatch
  | .upper => w.upper slot
  | .number => .ok (w, .atom (.int 99))
  | .decimal =>
    if w.isTrue slot then (w.toDecimal slot).map fun d => (w, .atom (.decimal d))
    else .ok (w, .atom (.decimal .zero))
  | .integers => w.toIntegers slot
  | .failing => .error (.value "custom failure")

/-- What a converter makes of a value.  A class makes an instance of itself; what is at no place in
the result of a pure function is a new object. -/
def applyConverter (w : World) (f : Converter) (slot : Slot) : Except Fault (World × Slot) :=
  match f with
  | .function f _ => w.applyFunction f slot
  | .pure f _ => (f.apply (w.load slot)).map w.intern
  | .value (.atom (.classRef (.builtin .str))) => w.toText slot
  | .value (.atom (.classRef (.builtin .bool))) => .ok (w, .atom (.bool (w.isTrue slot)))
  | .value (.atom (.classRef (.builtin .int))) =>
    (w.toInteger slot).map fun n => (w, .atom (.int n))
  | .value (.atom (.classRef (.builtin .decimal))) =>
    (w.toDecimal slot).map fun d => (w, .atom (.decimal d))
  | .value (.atom (.classRef c)) => w.createWith c ⟨[slot], []⟩
  | .value _ => .ok (w, .none)

end World

end Memberwise
