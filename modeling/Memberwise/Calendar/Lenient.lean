import Memberwise.Calendar.Clock
import Memberwise.Number.Decimal
import Memberwise.Number.Binary64.Text

/-! # Reading dates and times leniently

The forms of dates, times of day, moments and durations that a schema accepts as text, and the
numbers that it accepts in their place: seconds, or milliseconds where the number is too large
for seconds to make sense.
-/

namespace Memberwise.Lenient

def digits? : (count : Nat) → (value : Nat) → List Char → Option (Nat × List Char)
  | 0, value, text => some (value, text)
  | count + 1, value, c :: rest =>
    if c.isDigit then digits? count (10 * value + (c.toNat - 48)) rest else none
  | _ + 1, _, [] => none

def expect? (c : Char) : List Char → Option (List Char)
  | d :: rest => if c == d then some rest else none
  | [] => none

def dayHead? (text : List Char) : Option (Date × List Char) := do
  let (year, rest) ← digits? 4 0 text
  let (month, rest) ← digits? 2 0 (← expect? '-' rest)
  let (day, rest) ← digits? 2 0 (← expect? '-' rest)
  some (← (Date.ofParts year month day).toOption, rest)

/-- The microseconds that the digits of a fraction stand for; digits behind the sixth are
dropped. -/
def fractionMicros (digits : List Char) : Nat :=
  let kept := digits.take 6
  kept.foldl (fun value c => 10 * value + (c.toNat - 48)) 0 * Nat.pow 10 (6 - kept.length)

/-- Reads the fraction of a second that may follow. -/
def fractionHead? : List Char → Option (Nat × List Char)
  | mark :: rest =>
    if mark == '.' || mark == ',' then
      let digits := rest.takeWhile Char.isDigit
      if digits.isEmpty then none
      else some (fractionMicros digits, rest.drop digits.length)
    else some (0, mark :: rest)
  | [] => some (0, [])

/-- Reads `hours:minutes`, and seconds with a fraction if they follow. -/
def clockHead? (text : List Char) : Option (Clock × List Char) := do
  let (hour, rest) ← digits? 2 0 text
  let (minute, rest) ← digits? 2 0 (← expect? ':' rest)
  match rest with
  | ':' :: rest =>
    let (second, rest) ← digits? 2 0 rest
    let (micros, rest) ← fractionHead? rest
    some (← (Clock.ofParts hour minute second micros).toOption, rest)
  | _ => some (← (Clock.ofParts hour minute 0 0).toOption, rest)

/-- Reads the offset that ends a text, if there is one: `Z`, or signed hours and minutes with
or without a colon. -/
def offsetTail? : List Char → Option (Option Offset)
  | [] => some none
  | mark :: rest =>
    if mark == 'Z' || mark == 'z' then if rest.isEmpty then some (some .utc) else none
    else if mark == '+' || mark == '-' || mark == '−' then do
      let (hours, rest) ← digits? 2 0 rest
      let rest := match rest with
        | ':' :: rest => rest
        | rest => rest
      let (minutes, rest) ← digits? 2 0 rest
      if minutes < 60 ∧ rest.isEmpty then
        let size : Int := (hours * 60 + minutes) * 60 * second
        (Offset.ofMicros? (if mark == '+' then size else -size)).map some
      else none
    else none

def wholeNumber? (text : List Char) : Option Int :=
  let (negative, body) := scanSign text
  if body.isEmpty || !body.all Char.isDigit then none
  else some (signed negative (body.foldl (fun value c => 10 * value + (c.toNat - 48)) 0))

/-- A number of seconds with its microseconds, as written with an optional fraction. -/
def seconds? (text : List Char) : Option (Int × Nat) :=
  match wholeNumber? text with
  | some n => some (n, 0)
  | none =>
    if text.any fun c => c == 'e' || c == 'E' || 127 < c.toNat || c == '_' then none
    else
      let (negative, body) := scanSign text
      match readNumeral? negative body with
      | some numeral =>
        let scale := Nat.pow 10 numeral.exponent.natAbs
        let whole := ofDigits numeral.digits / scale
        let micros := ofDigits numeral.digits % scale * 1000000 / scale
        some (signed negative whole, micros)
      | none => none

/-- The greatest number of seconds that is not read as milliseconds. -/
def watershed : Int := 20000000000

/-- A timestamp as seconds and microseconds: large numbers are milliseconds. -/
def splitTimestamp (timestamp : Int) : Int × Nat :=
  if timestamp.natAbs ≤ watershed.natAbs then (timestamp, 0)
  else (timestamp.fdiv 1000, (timestamp.fmod 1000).toNat * 1000)

/-- Whether seconds since the epoch fall into the years that timestamps may name. -/
def inRange (seconds : Int) : Bool := -11676096000 ≤ seconds && seconds ≤ 253402300799

def momentOfSeconds? (timestamp : Int) (micros : Nat) : Option Moment :=
  let (seconds, extra) := splitTimestamp timestamp
  let total := seconds * second + (extra + micros : Nat)
  if inRange seconds then Moment.ofLocalMicros? total (some .utc) else none

/-- The day of a timestamp that falls on midnight. -/
def dateOfSeconds? (timestamp : Int) : Option Date :=
  let (seconds, _) := splitTimestamp timestamp
  if inRange seconds ∧ seconds.fmod 86400 = 0 then
    (Moment.ofLocalMicros? (seconds * second) none).map (·.date)
  else none

/-- The time of day a number of seconds after midnight, in universal time. -/
def timeOfSeconds? (seconds : Int) (micros : Nat) : Option TimeOfDay :=
  let total := seconds * second + micros
  if 0 ≤ seconds ∧ total < day then some ⟨Clock.ofMicros total.toNat, some .utc⟩ else none

/-- A binary number as whole seconds, rounded down, and microseconds. -/
def splitSeconds? : Binary64 → Option (Int × Nat)
  | .finite negative significand exponent _ =>
    let (num, den) := Binary64.ratio significand exponent
    let whole : Int := if negative then -((num + den - 1) / den : Nat) else (num / den : Nat)
    let product := Binary64.ofRatio false (num % den * 1000000) den
    match product with
    | .finite _ m e _ =>
      let (n, d) := Binary64.ratio m e
      some (whole, (2 * n + d) / (2 * d))
    | _ => none
  | _ => none

def durationOfSeconds? (x : Binary64) : Option Duration :=
  match x with
  | .finite negative significand exponent _ => do
    let (num, den) := Binary64.ratio significand exponent
    let (_, micros) ← splitSeconds? (.ofRatio false (num % den) den)
    Duration.ofMicros? ((if negative then -1 else 1) * ((num / den : Nat) * second + micros))
  | _ => none

/-- Reads a day: a calendar day, or a timestamp. -/
def date? (text : List Char) : Option Date :=
  match dayHead? text with
  | some (date, []) => some date
  | _ => (wholeNumber? text).bind dateOfSeconds?

/-- Reads a moment: a day and a time of day with a separator between them, or a timestamp. -/
def moment? (text : List Char) : Option Moment :=
  let written : Option Moment := do
    let (date, rest) ← dayHead? text
    match rest with
    | mark :: rest =>
      if mark == 'T' || mark == 't' || mark == ' ' || mark == '_' then
        let (clock, rest) ← clockHead? rest
        some ⟨date, clock, ← offsetTail? rest⟩
      else none
    | [] => some ⟨date, .midnight, none⟩
  written.or ((seconds? text).bind fun (seconds, micros) => momentOfSeconds? seconds micros)

/-- Reads a time of day: hours and minutes, perhaps seconds, and perhaps an offset. -/
def time? (text : List Char) : Option TimeOfDay := do
  let (clock, rest) ← clockHead? text
  some ⟨clock, ← offsetTail? rest⟩

/-- The length of a unit of a duration in seconds, by its letter and by whether it stands
behind the mark for times. -/
def unitSeconds? (afterMark : Bool) (unit : Char) : Option Nat :=
  if afterMark then
    if unit == 'H' then some 3600
    else if unit == 'M' then some 60
    else if unit == 'S' then some 1
    else none
  else
    if unit == 'D' then some 86400
    else if unit == 'W' then some 604800
    else if unit == 'M' then some 2592000
    else if unit == 'Y' then some 31536000
    else none

/-- Reads amounts with units; only the last amount may have a fraction. -/
def amounts? : (fuel : Nat) → (afterMark fractionSeen : Bool) → (micros : Nat) → List Char →
    Option Nat
  | _, _, _, micros, [] => some micros
  | 0, _, _, _, _ => none
  | fuel + 1, afterMark, fractionSeen, micros, c :: rest =>
    if c == 'T' then
      if afterMark then none else amounts? fuel true fractionSeen micros rest
    else if fractionSeen then none
    else
      let text := c :: rest
      let whole := text.takeWhile Char.isDigit
      if whole.isEmpty then none
      else
        let value := whole.foldl (fun value c => 10 * value + (c.toNat - 48)) 0
        let rest := text.drop whole.length
        match rest with
        | [] => none
        | mark :: behind =>
          if mark == '.' || mark == ',' then
            let digits := behind.takeWhile Char.isDigit
            let fraction := digits.foldl (fun value c => 10 * value + (c.toNat - 48)) 0
            match behind.drop digits.length with
            | unit :: behind =>
              (unitSeconds? afterMark unit).bind fun size =>
                let part := nearestEven (fraction * size * 1000000) (Nat.pow 10 digits.length)
                amounts? fuel afterMark true (micros + value * size * 1000000 + part) behind
            | [] => none
          else
            (unitSeconds? afterMark mark).bind fun size =>
              amounts? fuel afterMark false (micros + value * size * 1000000) behind

/-- Reads hours of any number of digits, minutes and perhaps seconds, as microseconds. -/
def span? (text : List Char) : Option Nat :=
  let hours := text.takeWhile Char.isDigit
  if hours.length = 0 ∨ 10 < hours.length ∨ text.length < 5 then none
  else
    match clockHead? (['0', '0'] ++ text.drop hours.length) with
    | some (clock, []) =>
      let value := hours.foldl (fun value c => 10 * value + (c.toNat - 48)) 0
      some (value * 3600000000 + clock.toMicros)
    | _ => none

/-- Drops a character from the head of a text in either case, if it is there. -/
def dropLetter (c : Char) : List Char → List Char
  | d :: rest => if d.toLower == c then rest else d :: rest
  | [] => []

/-- Reads a number of days, the word for them, and perhaps a time, as microseconds. -/
def daysSpan? (text : List Char) : Option Nat :=
  let digits := text.takeWhile Char.isDigit
  if digits.isEmpty then none
  else
    let days := digits.foldl (fun value c => 10 * value + (c.toNat - 48)) 0
    let rest := text.drop digits.length
    let rest := match rest with
      | ' ' :: rest => rest
      | rest => rest
    match rest with
    | [] => none
    | unit :: rest =>
      if unit.toLower != 'd' then none
      else
        let worded : Option (List Char) :=
          match rest with
          | a :: tail =>
            if a.toLower == 'a' then
              match tail with
              | y :: tail => if y.toLower == 'y' then some (dropLetter 's' tail) else none
              | [] => none
            else some rest
          | [] => some []
        worded.bind fun rest =>
          let rest := match rest with
            | ',' :: rest => rest
            | rest => rest
          let rest := match rest with
            | ' ' :: rest => rest
            | rest => rest
          if rest.isEmpty then some (days * 86400000000)
          else (span? rest).map (days * 86400000000 + ·)

/-- Reads a duration: amounts with units behind a `P`, days with a time, or a time. -/
def duration? (text : List Char) : Option Duration :=
  let (negative, body) := scanSign text
  let micros : Option Nat :=
    match body with
    | 'P' :: rest =>
      if body.length < 3 then none else amounts? rest.length false false 0 rest
    | _ =>
      if text.any (fun c => c.toLower == 'd') ∨ text.length < 5 then daysSpan? body
      else span? body
  micros.bind fun micros => Duration.ofMicros? (signed negative micros)

/-- The longest duration text counts years of 365 days, days, and hours, minutes and seconds
behind a mark; parts that are zero are left out. -/
def durationText (span : Duration) : List Char :=
  let size := span.micros.natAbs
  let days := size / 86400000000
  let rest := size % 86400000000
  let part (n : Nat) (unit : Char) := if n = 0 then [] else naturalText n ++ [unit]
  let seconds := rest / 1000000 % 60
  let micros := rest % 1000000
  let fraction :=
    if micros = 0 then []
    else
      let digits := naturalText micros
      let padded := List.replicate (6 - digits.length) '0' ++ digits
      '.' :: (padded.reverse.dropWhile (· == '0')).reverse
  let secondsPart :=
    if seconds = 0 ∧ micros = 0 then [] else naturalText seconds ++ fraction ++ ['S']
  let clockPart :=
    if rest = 0 then []
    else 'T' :: part (rest / 3600000000) 'H' ++ part (rest / 60000000 % 60) 'M' ++ secondsPart
  (if span.micros < 0 then ['-'] else []) ++ 'P' ::
    (if size = 0 then ['T', '0', 'S']
      else part (days / 365) 'Y' ++ part (days % 365) 'D' ++ clockPart)

end Memberwise.Lenient
