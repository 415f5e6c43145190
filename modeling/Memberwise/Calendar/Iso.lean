import Memberwise.Calendar.Text
import Memberwise.Text.Bytes

/-! # Reading moments in ISO format

A reader for the calendar, week and basic forms of a day, any one character as separator, and
times of day with optional parts and offset.  It works on the bytes of the text, since the
separator stands at a fixed place among them; behind the end every byte counts as zero.
-/

namespace Memberwise.Iso

/-- The byte at the head, zero behind the end. -/
def peek (bytes : List Nat) : Nat := bytes.headD 0

def isDigit (byte : Nat) : Bool := 48 ≤ byte ∧ byte ≤ 57

/-- Reads exactly `count` digits. -/
def digits? : (count : Nat) → (value : Nat) → List Nat → Option (Nat × List Nat)
  | 0, value, bytes => some (value, bytes)
  | count + 1, value, byte :: rest =>
    if isDigit byte then digits? count (10 * value + (byte - 48)) rest else none
  | _ + 1, _, [] => none

/-- Where the day ends.  The form of the day shows in its fifth, sixth and later bytes; a week
form may leave open whether a day of the week belongs to it. -/
def separatorPlace? (bytes : List Nat) : Option Nat :=
  let length := bytes.length
  let byteAt (i : Nat) := bytes.getD i 0
  if length = 7 then some 7
  else if byteAt 4 = 45 then
    if byteAt 5 = 87 then
      if length < 8 then none
      else if 8 < length ∧ byteAt 8 = 45 then
        if length = 9 then none
        else if 10 < length ∧ isDigit (byteAt 10) then some 8
        else some 10
      else some 8
    else some 10
  else if byteAt 4 = 87 then
    let place := 7 + ((bytes.drop 7).takeWhile isDigit).length
    if place < 9 then some place
    else if place % 2 = 0 then some 7
    else some 8
  else some 8

/-- The day of a week of a year: weeks start on Monday, the first holds a Thursday. -/
def weekDate? (year week weekday : Nat) : Option (Nat × Nat × Nat) :=
  if year = 0 ∨ 9999 < year then none
  else
    let long :=
      let start := (Date.daysBeforeYear year) % 7
      start = 3 ∨ (start = 2 ∧ isLeapYear year)
    if week = 0 ∨ 53 < week ∨ (week = 53 ∧ ¬ long) then none
    else if weekday = 0 ∨ 7 < weekday then none
    else
      let n : Int := Date.firstWeek year + (week - 1) * 7 + (weekday - 1)
      some <|
        match Date.ofOrdinal? n.toNat with
        | some date => (date.year, date.month, date.day)
        | none => (if n < 1 then 0 else 10000, 1, 1)

/-- Reads the bytes of a day as year, month and day, not yet checked against the calendar. -/
def day? (bytes : List Nat) (length : Nat) : Option (Nat × Nat × Nat) := do
  let (year, rest) ← digits? 4 0 bytes
  let dashed := peek rest = 45
  let rest := if dashed then rest.drop 1 else rest
  if peek rest = 87 then
    let (week, rest) ← digits? 2 0 (rest.drop 1)
    if bytes.length - rest.length < length then
      if dashed ∧ peek rest ≠ 45 then none
      let rest := if dashed then rest.drop 1 else rest
      let (weekday, _) ← digits? 1 0 rest
      weekDate? year week weekday
    else weekDate? year week 1
  else
    let (month, rest) ← digits? 2 0 rest
    if dashed ∧ peek rest ≠ 45 then none
    let rest := if dashed then rest.drop 1 else rest
    let (day, rest) ← digits? 2 0 rest
    if bytes.length - rest.length = length then some (year, month, day) else none

/-- The parts of a time of day as read, and whether bytes were left over. -/
structure Parts where
  hour : Nat
  minute : Nat
  second : Nat
  micros : Nat
  leftover : Bool
deriving Repr

/-- Reads a fraction of a second: up to six digits count, further ones are dropped. -/
def fraction? (bytes : List Nat) (available : Nat) : Option (Nat × Bool) := do
  let count := min available 6
  let (value, rest) ← digits? count 0 bytes
  let rest := rest.dropWhile isDigit
  some (value * Nat.pow 10 (6 - count), peek rest ≠ 0)

/-- Reads hours, then minutes and seconds if they follow, then a fraction.  Colons are used
throughout or not at all, as the first place shows. -/
def parts? : (fuel : Nat) → (done : List Nat) → (colons : Bool) → (bytes : List Nat) →
    (available : Nat) → Option Parts
  | 0, done, _, bytes, available => do
    let (micros, leftover) ← fraction? bytes available
    some ⟨done.getD 0 0, done.getD 1 0, done.getD 2 0, micros, leftover⟩
  | fuel + 1, done, colons, bytes, available => do
    let (value, rest) ← digits? 2 0 bytes
    let done := done ++ [value]
    let mark := peek rest
    let colons := if done.length = 1 then mark = 58 else colons
    if available ≤ 3 then
      some ⟨done.getD 0 0, done.getD 1 0, done.getD 2 0, 0, mark ≠ 0⟩
    else if colons ∧ mark = 58 then parts? fuel done colons (rest.drop 1) (available - 3)
    else if mark = 46 ∨ mark = 44 then do
      let (micros, leftover) ← fraction? (rest.drop 1) (available - 3)
      some ⟨done.getD 0 0, done.getD 1 0, done.getD 2 0, micros, leftover⟩
    else if colons then none
    else parts? fuel done colons rest (available - 2)

/-- A time of day as read, with its offset in microseconds if it has one. -/
structure RawTime where
  parts : Parts
  offset : Option (Int × Int)
deriving Repr

/-- Reads a time of day with an offset: `Z`, or a signed time. -/
def time? (bytes : List Nat) : Option RawTime := do
  let isMark := fun byte => byte = 43 ∨ byte = 45 ∨ byte = 90
  let before := bytes.takeWhile fun byte => ¬ isMark byte
  let clock ← parts? 3 [] true bytes before.length
  match bytes.drop before.length with
  | [] => if clock.leftover then none else some ⟨clock, none⟩
  | 90 :: rest => if peek rest = 0 then some ⟨clock, some (0, 0)⟩ else none
  | sign :: rest =>
    let offset ← parts? 3 [] true rest rest.length
    if offset.leftover then none
    let factor : Int := if sign = 45 then -1 else 1
    some ⟨clock, some (factor * ((offset.hour * 60 + offset.minute) * 60 + offset.second),
      factor * offset.micros)⟩

inductive Fault where
  | malformed
  /-- The offset, in microseconds, reaches a day. -/
  | offset (micros : Int)
  | date (fault : DateFault)
  | clock (fault : ClockFault)
deriving DecidableEq, Repr

/-- The offset as read; one of no whole seconds is universal time. -/
def offsetOf : Option (Int × Int) → Except Fault (Option Offset)
  | none => .ok none
  | some (seconds, micros) =>
    if seconds = 0 then .ok (some .utc)
    else
      match Offset.ofMicros? (seconds * second + micros) with
      | some offset => .ok (some offset)
      | none => .error (.offset (seconds * second + micros))

/-- The number of bytes of the separator, by its first byte. -/
def separatorLength (byte : Nat) : Nat :=
  if byte < 128 then 1
  else if byte / 16 = 14 then 3
  else if byte / 16 = 15 then 4
  else 2

/-- Reads a moment.  The parts are checked only when all of the text has been read: first the
offset, then the day, then the time of day. -/
def read (text : List Char) : Except Fault Moment := do
  let bytes := (Text.encodeUtf8 (String.ofList text)).map UInt8.toNat
  let raw : Option ((Nat × Nat × Nat) × RawTime) := do
    if text.length < 7 then none
    let place ← separatorPlace? bytes
    let date ← day? bytes place
    if bytes.length ≤ place then
      some (date, ⟨⟨0, 0, 0, 0, false⟩, none⟩)
    else
      let time ← time? (bytes.drop (place + separatorLength (bytes.getD place 0)))
      some (date, time)
  match raw with
  | none => .error .malformed
  | some ((year, month, day), time) =>
    let offset ← offsetOf time.offset
    let date ← (Date.ofParts year month day).mapError Fault.date
    let clock ← (Clock.ofParts time.parts.hour time.parts.minute time.parts.second
      time.parts.micros).mapError Fault.clock
    .ok ⟨date, clock, offset⟩

end Memberwise.Iso

namespace Memberwise

def DateFault.message : DateFault → String
  | .year given => "year " ++ toString given ++ " is out of range"
  | .month => "month must be in 1..12"
  | .day => "day is out of range for month"

def ClockFault.message : ClockFault → String
  | .hour => "hour must be in 0..23"
  | .minute => "minute must be in 0..59"
  | .second => "second must be in 0..59"
  | .microsecond => "microsecond must be in 0..999999"

end Memberwise
