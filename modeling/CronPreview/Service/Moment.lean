/-
Instants in requests.

* `ClockReading`: what a date, or a date and a time of day, says;
* `ClockReading.instant`: the instant at which a clock shows it;
* `readClockReading?`: reads it from a text;
* `readTimestamp?`: the instant of a numeral, which may have a fraction;
* `readMoment`: an instant, given as text or as a timestamp.
-/
import CronPreview.Json.Reader
import CronPreview.Service.Fault
import CronPreview.Service.Timestamp

namespace CronPreview.Service

/-! ### Dates and times of day -/

/-- A date and a time of day, with the distance from UTC if it is known. -/
structure ClockReading where
  date : Date
  hour : Nat := 0
  minute : Nat := 0
  second : Nat := 0
  microsecond : Nat := 0
  offset : Option Int := none
deriving DecidableEq, Repr

namespace ClockReading

/-- The instant at which a clock shows this, if there is one. -/
def instant? (r : ClockReading) : Option Instant :=
  Instant.of? r.date r.hour r.minute r.second r.microsecond (r.offset.map messageZone)

/-- The same reading in another year. -/
def inYear (year : Nat) (r : ClockReading) : ClockReading :=
  { r with date := { r.date with year := year } }

/-- The instant at which a clock shows this. The year 0 has the days of the year 400. -/
def instant (r : ClockReading) : Except MomentError Instant :=
  match r.instant? with
  | some t => .ok t
  | none =>
    if r.date.year = 0 ∧ (r.inYear 400).instant?.isSome then .error .beforeCalendar
    else .error .unreadable

end ClockReading

/-- The microseconds of a fraction of a second, after a point or a comma. -/
def readMomentFraction? : List Char → Option (Nat × List Char)
  | ',' :: cs => readFraction? ('.' :: cs)
  | cs => readFraction? cs

/-- The seconds and microseconds of a time of day, if they are given. -/
def readMomentSeconds? : List Char → Option ((Nat × Nat) × List Char)
  | ':' :: cs => do
    let (second, cs) ← readDigits? 2 cs
    let (microsecond, cs) ← readMomentFraction? cs
    return ((second, microsecond), cs)
  | cs => some ((0, 0), cs)

/-- A distance from UTC in hours and minutes; it is less than a day. -/
def readMomentOffset? (sign : Int) (cs : List Char) : Option (Option Int) := do
  let (hour, cs) ← readDigits? 2 cs
  let (minute, cs) ← readDigits? 2 (match cs with
    | ':' :: ds => ds
    | ds => ds)
  if cs = [] ∧ hour < 24 ∧ minute < 60 then
    return some (sign * ((hour * 60 + minute) * 60 : Nat))
  else none

/-- The distance from UTC at the end of a text, if one is given. -/
def readMomentZone? : List Char → Option (Option Int)
  | [] => some none
  | ['Z'] | ['z'] => some (some 0)
  | '+' :: cs => readMomentOffset? 1 cs
  | '-' :: cs | '−' :: cs => readMomentOffset? (-1) cs
  | _ => none

/-- A date, or a date and a time of day after it. -/
def readClockReading? (cs : List Char) : Option ClockReading := do
  let (date, cs) ← readDate? cs
  match cs with
  | [] => return { date := date }
  | separator :: cs =>
    if separator ∈ ['T', 't', ' ', '_'] then do
      let ((hour, minute), cs) ← readClock? cs
      let ((second, microsecond), cs) ← readMomentSeconds? cs
      let offset ← readMomentZone? cs
      return ⟨date, hour, minute, second, microsecond, offset⟩
    else none

/-! ### Numerals -/

/-- Whether a text begins with a minus sign, and the text after its sign. -/
def splitSign : List Char → Bool × List Char
  | '-' :: cs => (true, cs)
  | '+' :: cs => (false, cs)
  | cs => (false, cs)

/-- The greatest whole part of a numeral with a fraction. -/
def maxWholePart : Nat := 9223372036854775807

/-- The number that a numeral with a point stands for: there are digits on one side of the point at
least, and an exponent may follow. -/
def readDecimal? (negative : Bool) (cs : List Char) : Option Float :=
  let whole := cs.takeWhile Char.isDigit
  match cs.dropWhile Char.isDigit with
  | '.' :: cs =>
    let ds := cs.takeWhile Char.isDigit
    match Json.readExponent (cs.dropWhile Char.isDigit) with
    | .ok (exponent, []) =>
      if whole ++ ds = [] ∨ maxWholePart < Numeral.value whole then none
      else
        some (Json.nearestReal negative (Numeral.value (whole ++ ds))
          (exponent.getD 0 - ds.length))
    | _ => none
  | _ => none

/-- The instant of a timestamp, if a text is a numeral. -/
def readTimestamp? (cs : List Char) : Option (Except MomentError Instant) :=
  let (negative, ds) := splitSign cs
  if Numeral.isNumeral ds then
    let n : Int := Numeral.value ds
    some (Timestamp.ofInteger (if negative then -n else n) 0)
  else (readDecimal? negative ds).map Timestamp.ofDecimal

/-! ### Values -/

/-- The instant that a text stands for. No text is both a date and a numeral, because a hyphen
follows the year. -/
def readMomentText (cs : List Char) : Except MomentError Instant :=
  match readClockReading? cs with
  | some r => r.instant
  | none => (readTimestamp? cs).getD (.error .unreadable)

/-- How a text that stands for no instant is at fault. -/
def MomentError.textFault : MomentError → Fault
  | unreadable => .momentUnreadable
  | beforeCalendar => .momentOutOfRange

/-- The instant that a value stands for. An integer beyond the range of doubles is no timestamp. -/
def readMoment : Json → Except Fault Instant
  | .string s => (readMomentText s.toList).mapError MomentError.textFault
  | .integer n =>
    if (Float.ofInt n).isInf then .error .notAMoment
    else (Timestamp.ofInteger n 0).mapError fun _ => .momentOutOfRange
  | .real x => (Timestamp.ofReal x).mapError fun _ => .momentOutOfRange
  | _ => .error .notAMoment

end CronPreview.Service
