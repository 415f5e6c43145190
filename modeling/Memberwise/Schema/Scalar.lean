import Memberwise.Calendar.Lenient
import Memberwise.Schema
import Memberwise.Text.Bytes
import Memberwise.Value.Render

/-! # Scalars as schemas read them

Which values a schema accepts for each scalar type, and what it makes of them.  A reading is
graded by how much it had to change: a value of the very type is exact, one of a related type
strict, and anything converted is lax.
-/

namespace Memberwise.Schema

/-- How close an accepted value was to the type asked for. -/
inductive Exactness where
  | lax
  | strict
  | exact
deriving DecidableEq, Repr

namespace Exactness

def rank : Exactness → Nat
  | lax => 0
  | strict => 1
  | exact => 2

/-- The lower of two grades. -/
def meet (a b : Exactness) : Exactness := if a.rank ≤ b.rank then a else b

end Exactness

/-- A text that a value may be read as; bytes are text unless they are ill-formed. -/
inductive TextSource where
  | text (s : String)
  | illFormed
  | none

/-- The bytes of a byte array, if its items are bytes. -/
def bytesOf (items : List Value) : List UInt8 :=
  items.filterMap fun
    | .atom (.int n) => some (UInt8.ofNat n.toNat)
    | _ => Option.none

def contentOf? : Value → Option (List UInt8)
  | .atom (.bytes content) => some content
  | .seq _ .bytearray items => some (bytesOf items)
  | _ => Option.none

/-- The text that a value may be read as. -/
def textSource (classes : Classes) (v : Value) : TextSource :=
  match classes.scalarOf? v with
  | some (.str s) => .text s
  | some (.bytes content) =>
    match Text.decodeUtf8? content with
    | some s => .text s
    | Option.none => .illFormed
  | _ => .none

/-- Whether a text has no underscore at either end and no two in a row. -/
def underscoresFit : (afterUnderscore : Bool) → List Char → Bool
  | afterUnderscore, [] => !afterUnderscore
  | afterUnderscore, c :: rest =>
    if c == '_' then !afterUnderscore && underscoresFit true rest else underscoresFit false rest

/-- A text without its underscores, if they fit. -/
def withoutUnderscores? (text : List Char) : Option (List Char) :=
  if text.head? != some '_' && underscoresFit false text then some (text.filter (· != '_'))
  else none

/-- Reads an integer: digits with underscores between them and with nothing but zeros behind
a point. -/
def readInt? (text : List Char) : Option Int := do
  let trimmed := Text.trimBy Text.isWhiteSpace text
  let (negative, body) := scanSign trimmed
  let body ← withoutUnderscores? body
  let whole := body.takeWhile (· != '.')
  let zeros := body.drop (whole.length + 1)
  if whole.isEmpty || !whole.all Char.isDigit || !zeros.all (· == '0') then none
  else if digitLimit < whole.length then none
  else some (signed negative (whole.foldl (fun value c => 10 * value + (c.toNat - 48)) 0))

/-- Reads a binary number; digits are ASCII. -/
def readFloat? (text : List Char) : Option Binary64 :=
  let trimmed := Text.trimBy Text.isWhiteSpace text
  if trimmed.any fun c => 127 < c.toNat then none
  else
    match Binary64.readBare? (trimmed.filter fun c => c != '_') with
    | some x => if (withoutUnderscores? trimmed).isSome then some x else none
    | none => none

/-- Reads a truth value in one of the usual words, in any case. -/
def readBool? (text : List Char) : Option Bool :=
  let word := String.ofList (lowerAscii text)
  if ["0", "off", "f", "false", "n", "no"].contains word then some false
  else if ["1", "on", "t", "true", "y", "yes"].contains word then some true
  else none

/-- The longest numeral at the head of a text with its sign, and the rest.  Words for special
values count as numerals. -/
def numeralHead (text : List Char) : List Char × List Char :=
  let sign := text.takeWhile fun c => c == '+' || c == '-'
  let sign := sign.take 1
  let body := text.drop sign.length
  let lower := lowerAscii body
  let word :=
    if "infinity".toList.isPrefixOf lower then 8
    else if "inf".toList.isPrefixOf lower then 3
    else if "nan".toList.isPrefixOf lower then 3
    else 0
  if 0 < word then (sign ++ body.take word, body.drop word)
  else
    let isPlain := fun c => Char.isDigit c || c == '.' || c == '_'
    let mantissa := body.takeWhile isPlain
    let rest := body.drop mantissa.length
    match rest with
    | mark :: behind =>
      if mark == 'e' || mark == 'E' then
        let esign := (behind.takeWhile fun c => c == '+' || c == '-').take 1
        let digits := (behind.drop esign.length).takeWhile fun c => Char.isDigit c || c == '_'
        if digits.isEmpty then (sign ++ mantissa, rest)
        else
          (sign ++ mantissa ++ mark :: esign ++ digits,
            behind.drop (esign.length + digits.length))
      else (sign ++ mantissa, rest)
    | [] => (sign ++ mantissa, [])

/-- A part of a complex number; a sign alone stands for one of that sign. -/
def readPart? (text : List Char) : Option Binary64 :=
  if text.isEmpty || text == ['+'] then some (.ofInt 1)
  else if text == ['-'] then some (.ofInt (-1))
  else Binary64.read? text

/-- Reads a complex number: a real part, an imaginary part marked by `j`, or their sum,
perhaps in parentheses. -/
def readComplex? (text : List Char) : Option (Binary64 × Binary64) :=
  let trimmed := Text.trimBy Text.isWhiteSpace text
  let body :=
    if trimmed.head? = some '(' ∧ trimmed.getLast? = some ')' then
      Text.trimBy Text.isWhiteSpace (trimmed.drop 1).dropLast
    else trimmed
  if body.isEmpty then none
  else
    let (first, rest) := numeralHead body
    match rest with
    | [] => (Binary64.read? first).map fun x => (x, .zero false)
    | [mark] =>
      if mark == 'j' || mark == 'J' then (readPart? first).map fun x => (.zero false, x) else none
    | sign :: _ =>
      if sign == '+' || sign == '-' then
        match numeralHead rest with
        | (second, [mark]) =>
          if mark == 'j' || mark == 'J' then do
            some (← Binary64.read? first, ← readPart? second)
          else none
        | _ => none
      else none

/-- The binary number nearest to a value that is a number. -/
def nearestFloat? (classes : Classes) (v : Value) : Option Binary64 :=
  match classes.scalarOf? v with
  | some (.float x) => some x
  | some (.bool b) => some (.ofInt (if b then 1 else 0))
  | some (.int n) => let x := Binary64.ofInt n; if x.isFinite then some x else none
  | some (.decimal (.finite negative coefficient exponent)) =>
    some (.ofDecimal negative coefficient exponent)
  | some (.decimal (.infinity negative)) => some (.infinity negative)
  | some (.decimal (.nan _ false _)) => some .nan
  | _ => none

/-- Whether an integer fits into 64 bits with its sign. -/
def fitsWord (n : Int) : Bool := -9223372036854775808 ≤ n && n ≤ 9223372036854775807

/-- The integer that a value is, if it fits into 64 bits. -/
def wordOf? (classes : Classes) (v : Value) : Option Int :=
  match classes.scalarOf? v with
  | some (.int n) => if fitsWord n then some n else none
  | some (.bool b) => some (if b then 1 else 0)
  | _ => none

/-- A binary number that is an integer of 64 bits. -/
def floatAsInt? (x : Binary64) : Option Int :=
  x.toInt?.bind fun n => if fitsWord n then some n else none

def decimalAsInt? : Decimal → Option Int
  | .finite negative coefficient exponent =>
    if 0 ≤ exponent then some (signed negative (coefficient * Nat.pow 10 exponent.toNat))
    else if digitCount coefficient < exponent.natAbs then
      if coefficient = 0 then some 0 else none
    else
      let unit := Nat.pow 10 exponent.natAbs
      if coefficient % unit = 0 then some (signed negative (coefficient / unit)) else none
  | _ => none

/-- The truth value that zero and one stand for. -/
def truthOf? (n : Int) : Option Bool :=
  if n = 0 then some false else if n = 1 then some true else none

/-- A moment at midnight, as a day. -/
def midnightDate? (m : Moment) : Option Date :=
  if m.clock = .midnight then some m.date else none

abbrev Graded := Option (Value × Exactness)

def graded (e : Exactness) (a : Atom) : Graded := some (.atom a, e)

def lax (a : Option Atom) : Graded := a.map fun a => (.atom a, .lax)

/-- What is read where an integer is asked for.  The member of an enumeration counts as its
value, whatever that is. -/
def readAsInt (classes : Classes) (v : Value) : Graded :=
  match v with
  | .atom (.int n) => graded .exact (.int n)
  | .atom (.bool b) => graded .lax (.int (if b then 1 else 0))
  | _ =>
    match classes.scalarOf? v with
    | some (.int n) => graded .strict (.int n)
    | some (.float x) => lax ((floatAsInt? x).map .int)
    | some (.decimal d) => lax ((decimalAsInt? d).map .int)
    | some (.member owner name) =>
      some (classes.memberValue owner name, .lax)
    | _ =>
      match textSource classes v with
      | .text s => lax ((readInt? s.toList).map .int)
      | _ => none

def readAsBool (classes : Classes) (v : Value) : Graded :=
  match v with
  | .atom (.bool b) => graded .exact (.bool b)
  | _ =>
    match textSource classes v with
    | .text s => lax ((readBool? s.toList).map .bool)
    | .illFormed => none
    | .none =>
      match wordOf? classes v with
      | some n => lax ((truthOf? n).map .bool)
      | none => lax (((nearestFloat? classes v).bind floatAsInt?).bind truthOf? |>.map .bool)

def readAsFloat (classes : Classes) (v : Value) : Graded :=
  match v with
  | .atom (.float x) => graded .exact (.float x)
  | .atom (.bool b) => graded .lax (.float (.ofInt (if b then 1 else 0)))
  | _ =>
    match textSource classes v with
    | .text s => lax ((readFloat? s.toList).map .float)
    | .illFormed => none
    | .none => (nearestFloat? classes v).map fun x => (.atom (.float x), .strict)

def readAsStr (classes : Classes) (v : Value) : Graded :=
  match v with
  | .atom (.str s) => graded .exact (.str s)
  | _ =>
    match classes.scalarOf? v, v with
    | some (.str s), _ => graded .strict (.str s)
    | _, .atom (.member owner name) =>
      lax ((classes.plainText (classes.memberValue owner name)).toOption.map fun text =>
        .str (String.ofList text))
    | _, _ => lax ((contentOf? v).bind fun content => (Text.decodeUtf8? content).map .str)

def readAsBytes (classes : Classes) (v : Value) : Graded :=
  match v with
  | .atom (.bytes content) => graded .exact (.bytes content)
  | _ =>
    match classes.scalarOf? v with
    | some (.str s) => graded .lax (.bytes (Text.encodeUtf8 s))
    | _ => lax ((contentOf? v).map .bytes)

/-- A decimal number that is neither infinite nor a not-a-number. -/
def finiteDecimal? (d : Decimal) : Option Atom :=
  match d with
  | .finite .. => some (.decimal d)
  | _ => none

def readAsDecimal (classes : Classes) (v : Value) : Graded :=
  match v with
  | .atom (.decimal d) => (finiteDecimal? d).map fun a => (.atom a, .exact)
  | .atom (.bool _) => none
  | _ =>
    match classes.scalarOf? v with
    | some (.decimal d) => (finiteDecimal? d).map fun a => (.atom a, .strict)
    | some (.int n) => graded .lax (.decimal (.ofInt n))
    | some (.float x) => lax ((Decimal.read x.text).toOption.bind finiteDecimal?)
    | some (.str s) => lax ((Decimal.read (Text.trim s.toList)).toOption.bind finiteDecimal?)
    | _ => none

/-- The text from which a date or time is read. -/
def calendarText? (classes : Classes) (v : Value) : Option (List Char) :=
  match textSource classes v with
  | .text s => some s.toList
  | _ => none

def readAsMoment (classes : Classes) (v : Value) : Graded :=
  match v with
  | .atom (.datetime m) => graded .exact (.datetime m)
  | .atom (.date d) => graded .lax (.datetime ⟨d, .midnight, none⟩)
  | .atom (.bool _) => none
  | _ =>
    match calendarText? classes v with
    | some text => lax ((Lenient.moment? text).map .datetime)
    | none =>
      match wordOf? classes v with
      | some n => lax ((Lenient.momentOfSeconds? n 0).map .datetime)
      | none =>
        lax (((nearestFloat? classes v).bind Lenient.splitSeconds?).bind fun (seconds, micros) =>
          (Lenient.momentOfSeconds? seconds micros).map .datetime)

/-- What is read where a day is asked for: failing all else, a moment at midnight. -/
def readAsDate (classes : Classes) (v : Value) : Graded :=
  let fromMoment : Graded :=
    match readAsMoment classes v with
    | some (.atom (.datetime m), _) => lax ((midnightDate? m).map .date)
    | _ => none
  match v with
  | .atom (.date d) => graded .exact (.date d)
  | _ =>
    match (calendarText? classes v).bind Lenient.date? with
    | some d => graded .lax (.date d)
    | none => fromMoment

def readAsTime (classes : Classes) (v : Value) : Graded :=
  match v with
  | .atom (.time t) => graded .exact (.time t)
  | .atom (.bool _) => none
  | _ =>
    match calendarText? classes v with
    | some text => lax ((Lenient.time? text).map .time)
    | none =>
      match wordOf? classes v with
      | some n => lax ((Lenient.timeOfSeconds? n 0).map .time)
      | none =>
        lax (((nearestFloat? classes v).bind Lenient.splitSeconds?).bind fun (seconds, micros) =>
          (Lenient.timeOfSeconds? seconds micros).map .time)

def readAsDuration (classes : Classes) (v : Value) : Graded :=
  match v with
  | .atom (.timedelta span) => graded .exact (.timedelta span)
  | _ =>
    match calendarText? classes v with
    | some text => lax ((Lenient.duration? text).map .timedelta)
    | none =>
      match wordOf? classes v with
      | some n => lax ((Duration.ofMicros? (n * second)).map .timedelta)
      | none =>
        lax ((nearestFloat? classes v).bind fun x =>
          (Lenient.durationOfSeconds? x).map .timedelta)

def readAsUuid (v : Value) : Graded :=
  match v with
  | .atom (.uuid n) => graded .exact (.uuid n)
  | .atom (.str s) => lax ((Uuid.read? s.toList).map .uuid)
  | .atom (.bytes content) =>
    let written := (Text.decodeUtf8? content).bind fun s => Uuid.read? s.toList
    lax ((written.or (Uuid.ofBytes? content)).map .uuid)
  | _ => none

def readAsComplex (classes : Classes) (v : Value) : Graded :=
  match v with
  | .atom (.complex re im) => graded .exact (.complex re im)
  | _ =>
    match classes.scalarOf? v with
    | some (.str s) => lax ((readComplex? s.toList).map fun (re, im) => .complex re im)
    | _ => lax ((nearestFloat? classes v).map fun x => .complex x (.zero false))

/-- What a schema reads where a scalar type is asked for. -/
def readScalar (classes : Classes) (type : ScalarType) (v : Value) : Graded :=
  match type with
  | .bool => readAsBool classes v
  | .int => readAsInt classes v
  | .float => readAsFloat classes v
  | .complex => readAsComplex classes v
  | .str => readAsStr classes v
  | .bytes => readAsBytes classes v
  | .decimal => readAsDecimal classes v
  | .date => readAsDate classes v
  | .datetime => readAsMoment classes v
  | .time => readAsTime classes v
  | .timedelta => readAsDuration classes v
  | .uuid => readAsUuid v

/-- The first member of an enumeration whose value has a given key. -/
def memberWithKey? (classes : Classes) (enumeration : String) (key : Key) : Option String :=
  ((classes.membersOf enumeration).find? fun entry =>
    (classes.keyOf? entry.2).any (sameKey key)).map (·.1)

/-- A value as an enumeration of integers, texts or binary numbers reads it first. -/
def readAsMixin (classes : Classes) (enumeration : String) (v : Value) : Graded :=
  match classes.mixinOf? enumeration with
  | some .int => readAsInt classes v
  | some .str => readAsStr classes v
  | some .float => readAsFloat classes v
  | _ => none

/-- What is read where a member of an enumeration is asked for: a member, or the value of
one. -/
def readMember (classes : Classes) (enumeration : String) (v : Value) : Graded :=
  if classes.isInstance v (.declared enumeration) then some (v, .exact)
  else
    let find (v : Value) := (classes.keyOf? v).bind (memberWithKey? classes enumeration)
    (((readAsMixin classes enumeration v).bind fun r => find r.1).or (find v)).map fun name =>
      (.atom (.member enumeration name), .lax)

/-- What is read where one of some values is asked for: the listed value that is equal, one of
the same class before others and a later one before an earlier one. -/
def readLiteral (classes : Classes) (values : List Atom) (v : Value) : Graded :=
  (classes.keyOf? v).bind fun key =>
    let equal := (values.filter fun a => (classes.keyOf? (.atom a)).any (sameKey key)).reverse
    ((equal.find? fun a => a.classOf == v.classOf).or equal.head?).map fun a => (.atom a, .exact)

end Memberwise.Schema
