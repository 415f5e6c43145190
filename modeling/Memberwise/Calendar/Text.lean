import Memberwise.Calendar.Clock
import Memberwise.Number.Integer

/-! # Writing dates and times

The extended ISO format: years have four digits, all other parts two, a fraction of a second
six.  Microseconds, and the seconds of an offset, are left out when they are zero.
-/

namespace Memberwise

def padded (width n : Nat) : List Char :=
  let digits := naturalText n
  List.replicate (width - digits.length) '0' ++ digits

/-- A fraction of a second behind a point, nothing if it is zero. -/
def fractionText (micros : Nat) : List Char :=
  if micros = 0 then [] else '.' :: padded 6 micros

/-- `hours:minutes:seconds`, and a fraction if there is one. -/
def clockText (hour minute second micros : Nat) : List Char :=
  padded 2 hour ++ ':' :: padded 2 minute ++ ':' :: padded 2 second ++ fractionText micros

def Date.text (date : Date) : List Char :=
  padded 4 date.year ++ '-' :: padded 2 date.month ++ '-' :: padded 2 date.day

def Clock.text (clock : Clock) : List Char :=
  clockText clock.hour clock.minute clock.second clock.microsecond

/-- An offset with its sign; seconds are written only if the offset has some. -/
def Offset.text (offset : Offset) : List Char :=
  let size := offset.micros.natAbs
  let seconds := size / 1000000
  let tail :=
    if seconds % 60 = 0 ∧ size % 1000000 = 0 then []
    else ':' :: padded 2 (seconds % 60) ++ fractionText (size % 1000000)
  (if offset.micros < 0 then '-' else '+') ::
    padded 2 (seconds / 3600) ++ ':' :: padded 2 (seconds / 60 % 60) ++ tail

def offsetText : Option Offset → List Char
  | some offset => offset.text
  | none => []

/-- A moment with a chosen mark between day and time. -/
def Moment.textWith (separator : Char) (moment : Moment) : List Char :=
  moment.date.text ++ separator :: moment.clock.text ++ offsetText moment.offset

def Moment.text (moment : Moment) : List Char := moment.textWith ' '

/-- The standard form of a moment, with a `T` between day and time. -/
def Moment.isoText (moment : Moment) : List Char := moment.textWith 'T'

def TimeOfDay.text (time : TimeOfDay) : List Char :=
  time.clock.text ++ offsetText time.offset

/-- The text of a duration: its days in words, then hours, minutes and seconds. -/
def Duration.text (span : Duration) : List Char :=
  let days := span.days
  let seconds := span.seconds
  let count :=
    if days = 0 then []
    else integerText days ++ (if days.natAbs = 1 then " day, " else " days, ").toList
  count ++ naturalText (seconds / 3600) ++ ':' :: padded 2 (seconds / 60 % 60) ++
    ':' :: padded 2 (seconds % 60) ++ fractionText span.microseconds

namespace Schema

/-- How a dumped moment writes its offset: universal time is `Z`, seconds are left out. -/
def offsetMark : Option Offset → List Char
  | none => []
  | some offset =>
    if offset.micros = 0 then ['Z']
    else
      let minutes := offset.micros.natAbs / 60000000
      (if offset.micros < 0 then '-' else '+') ::
        padded 2 (minutes / 60) ++ ':' :: padded 2 (minutes % 60)

end Schema

end Memberwise
