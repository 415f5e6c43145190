/-! # Dates

Days of the proleptic Gregorian calendar from year 1 to year 9999, and their numbering from
the first of them on.
-/

namespace Memberwise

def isLeapYear (year : Nat) : Bool :=
  year % 4 == 0 && (year % 100 != 0 || year % 400 == 0)

def daysInMonth (year month : Nat) : Nat :=
  if month = 2 then if isLeapYear year then 29 else 28
  else if month = 4 ∨ month = 6 ∨ month = 9 ∨ month = 11 then 30
  else 31

/-- The triples that name a day. -/
def Date.Valid (year month day : Nat) : Prop :=
  (1 ≤ year ∧ year ≤ 9999) ∧ (1 ≤ month ∧ month ≤ 12) ∧ (1 ≤ day ∧ day ≤ daysInMonth year month)

instance (year month day : Nat) : Decidable (Date.Valid year month day) :=
  inferInstanceAs (Decidable (_ ∧ _ ∧ _))

structure Date where
  year : Nat
  month : Nat
  day : Nat
  valid : Date.Valid year month day
deriving DecidableEq

/-- What is out of range in a triple that names no day; the largest unit is blamed first. -/
inductive DateFault where
  | year (given : Nat)
  | month
  | day
deriving DecidableEq, Repr

namespace Date

def first : Date := ⟨1, 1, 1, by decide⟩

instance : Inhabited Date := ⟨first⟩

def ofParts (year month day : Nat) : Except DateFault Date :=
  if h : Valid year month day then .ok ⟨year, month, day, h⟩
  else if year = 0 ∨ 9999 < year then .error (.year year)
  else if month = 0 ∨ 12 < month then .error .month
  else .error .day

def daysBeforeYear (year : Nat) : Nat :=
  let past := year - 1
  past * 365 + past / 4 - past / 100 + past / 400

/-- The number of days in the months before a month of the same year. -/
def daysBeforeMonth (year month : Nat) : Nat :=
  ((List.range (month - 1)).map fun i => daysInMonth year (i + 1)).foldr (· + ·) 0

/-- The number of a day; the first day of the calendar has number one. -/
def ordinal (date : Date) : Nat :=
  daysBeforeYear date.year + daysBeforeMonth date.year date.month + date.day

/-- The month and day of the month of a day counted from the start of a year. -/
def splitYear (year : Nat) : (months : List Nat) → (dayOfYear : Nat) → Nat × Nat
  | [], dayOfYear => (12, dayOfYear)
  | month :: later, dayOfYear =>
    if dayOfYear ≤ daysInMonth year month then (month, dayOfYear)
    else splitYear year later (dayOfYear - daysInMonth year month)

/-- The day with a given number, if it is in the calendar.  The year is found from the mean
length of years, which is never off by more than one. -/
def ofOrdinal? (n : Nat) : Option Date :=
  if n = 0 then none
  else
    let guess := (n - 1) * 400 / 146097 + 1
    let year :=
      if n ≤ daysBeforeYear guess then guess - 1
      else if daysBeforeYear (guess + 1) < n then guess + 1
      else guess
    let (month, day) := splitYear year ((List.range 12).map (· + 1)) (n - daysBeforeYear year)
    (ofParts year month day).toOption

/-- The number of the day from which moments are counted, the first of January 1970. -/
def epoch : Nat := 719163

def weekday (date : Date) : Nat := (date.ordinal + 6) % 7

/-- The number of the Monday that starts the first week of a year: the week that holds the
first Thursday. -/
def firstWeek (year : Nat) : Nat :=
  let start := daysBeforeYear year + 1
  let weekday := (start + 6) % 7
  let monday := start - weekday
  if 3 < weekday then monday + 7 else monday

end Date

end Memberwise
