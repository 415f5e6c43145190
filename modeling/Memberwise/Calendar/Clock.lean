import Memberwise.Calendar.Date

/-! # Times of day, offsets, moments and durations

A moment is a day with a time of day and, if it is tied to a place, the offset of the local
clock.  Durations and offsets are whole numbers of microseconds.
-/

namespace Memberwise

/-- Microseconds of a second. -/
abbrev second : Int := 1000000

abbrev minute : Int := 60 * second

abbrev hour : Int := 60 * minute

abbrev day : Int := 24 * hour

structure Clock where
  hour : Nat
  minute : Nat
  second : Nat
  microsecond : Nat
  valid : hour < 24 ∧ minute < 60 ∧ second < 60 ∧ microsecond < 1000000
deriving DecidableEq

/-- What is out of range in a time of day; the largest unit is blamed first. -/
inductive ClockFault where
  | hour
  | minute
  | second
  | microsecond
deriving DecidableEq, Repr

namespace Clock

def midnight : Clock := ⟨0, 0, 0, 0, by decide⟩

instance : Inhabited Clock := ⟨midnight⟩

def ofParts (hour minute second microsecond : Nat) : Except ClockFault Clock :=
  if h : hour < 24 ∧ minute < 60 ∧ second < 60 ∧ microsecond < 1000000 then
    .ok ⟨hour, minute, second, microsecond, h⟩
  else if 24 ≤ hour then .error .hour
  else if 60 ≤ minute then .error .minute
  else if 60 ≤ second then .error .second
  else .error .microsecond

def toMicros (clock : Clock) : Nat :=
  ((clock.hour * 60 + clock.minute) * 60 + clock.second) * 1000000 + clock.microsecond

/-- The time of day a number of microseconds after midnight, whole days left out. -/
def ofMicros (micros : Nat) : Clock :=
  let seconds := micros / 1000000
  ⟨seconds / 3600 % 24, seconds / 60 % 60, seconds % 60, micros % 1000000,
    ⟨Nat.mod_lt _ (by decide), Nat.mod_lt _ (by decide), Nat.mod_lt _ (by decide),
      Nat.mod_lt _ (by decide)⟩⟩

theorem toMicros_ofMicros (micros : Nat) (h : micros < 86400000000) :
    (ofMicros micros).toMicros = micros := by
  simp only [ofMicros, toMicros]; omega

end Clock

/-- How far a local clock is ahead of universal time, less than a day either way. -/
structure Offset where
  micros : Int
  bounded : -day < micros ∧ micros < day
deriving DecidableEq

namespace Offset

def utc : Offset := ⟨0, by decide⟩

instance : Inhabited Offset := ⟨utc⟩

def ofMicros? (micros : Int) : Option Offset :=
  if h : -day < micros ∧ micros < day then some ⟨micros, h⟩ else none

end Offset

/-- A day with a time of day, tied to universal time if it has an offset. -/
structure Moment where
  date : Date
  clock : Clock
  offset : Option Offset
deriving DecidableEq, Inhabited

structure TimeOfDay where
  clock : Clock
  offset : Option Offset
deriving DecidableEq, Inhabited

/-- A span of time of less than a thousand million days. -/
structure Duration where
  micros : Int
  bounded : -999999999 * day ≤ micros ∧ micros < 1000000000 * day
deriving DecidableEq

namespace Duration

def zero : Duration := ⟨0, by decide⟩

instance : Inhabited Duration := ⟨zero⟩

def ofMicros? (micros : Int) : Option Duration :=
  if h : -999999999 * day ≤ micros ∧ micros < 1000000000 * day then some ⟨micros, h⟩ else none

def days (span : Duration) : Int := span.micros.fdiv day

/-- The microseconds left when the whole days are taken away. -/
def rest (span : Duration) : Nat := (span.micros.fmod day).toNat

def seconds (span : Duration) : Nat := span.rest / 1000000

def microseconds (span : Duration) : Nat := span.rest % 1000000

def double? (span : Duration) : Option Duration := ofMicros? (2 * span.micros)

end Duration

namespace Moment

def first : Moment := ⟨.first, .midnight, none⟩

/-- Microseconds from the epoch to a moment, its offset left out of account. -/
def localMicros (moment : Moment) : Int :=
  ((moment.date.ordinal : Int) - Date.epoch) * day + moment.clock.toMicros

/-- The moment a number of microseconds after the epoch, if its day is in the calendar. -/
def ofLocalMicros? (micros : Int) (offset : Option Offset) : Option Moment :=
  (Date.ofOrdinal? ((Date.epoch : Int) + micros.fdiv day).toNat).map fun date =>
    ⟨date, Clock.ofMicros (micros.fmod day).toNat, offset⟩

/-- The place of a moment on the universal time line, if it is tied to it. -/
def universalMicros? (moment : Moment) : Option Int :=
  moment.offset.map fun offset => moment.localMicros - offset.micros

/-- Two moments are equal as points of time if they are equal on the universal time line, or
both lack an offset and agree. -/
def same (a b : Moment) : Bool :=
  match a.universalMicros?, b.universalMicros? with
  | some x, some y => x == y
  | none, none => a.localMicros == b.localMicros
  | _, _ => false

end Moment

namespace TimeOfDay

/-- Two times of day are equal if they agree once their offsets are taken off. -/
def same (a b : TimeOfDay) : Bool :=
  match a.offset, b.offset with
  | some x, some y => (a.clock.toMicros : Int) - x.micros == b.clock.toMicros - y.micros
  | none, none => a.clock == b.clock
  | _, _ => false

end TimeOfDay

end Memberwise
