/-
Instants given as a time since the beginning of 1970.

* `MomentError`: why something stands for no instant;
* `messageZone`: a zone that is known by its distance from UTC only;
* `Timestamp.ofSeconds`: the instant some seconds after the beginning of 1970;
* `Timestamp.ofInteger`: the same, for a number of seconds or of milliseconds;
* `Timestamp.ofReal`: the same, for a number with a fraction;
* `Timestamp.ofDecimal`: the same, for a numeral whose fraction may be one of milliseconds.
-/
import CronPreview.Calendar.Notation

namespace CronPreview.Service

/-- Why something stands for no instant. -/
inductive MomentError where
  /-- It has not the form of an instant, or it lies outside the years from 0 to 9999. -/
  | unreadable
  /-- It is a moment of the year 0, the last one before the calendar begins. -/
  | beforeCalendar
deriving DecidableEq, Repr

/-- A zone that is known by its distance from UTC only, which is also its name. -/
def messageZone (offset : Int) : Zone where
  offset := offset
  name := if offset = 0 then "UTC" else String.ofList (writeOffset offset)

namespace Timestamp

/-- The seconds from the beginning of the calendar to the beginning of 1970. -/
def epochSeconds : Int := 719162 * 86400

/-- The seconds of the year 0, which is a leap year. -/
def yearZeroSeconds : Int := 366 * 86400

/-- The greatest timestamp, in either direction, that counts seconds; those beyond it count
milliseconds. -/
def secondsLimit : Nat := 20000000000

/-- The instant in UTC this many seconds and microseconds after the beginning of 1970; there may be
more microseconds than a second has. -/
def ofSeconds (seconds : Int) (microsecond : Nat) : Except MomentError Instant :=
  let n := epochSeconds + seconds + microsecond / 1000000
  let m := n.toNat / 60
  if h : 0 ≤ n ∧ m < calendarMinutes then
    .ok
      { minute := m
        minute_lt := h.2
        second := n.toNat % 60
        second_lt := Nat.mod_lt _ (by decide)
        microsecond := microsecond % 1000000
        microsecond_lt := Nat.mod_lt _ (by decide)
        zone := some (messageZone 0) }
  else if -yearZeroSeconds ≤ n ∧ n < 0 then .error .beforeCalendar
  else .error .unreadable

/-- The instant of a timestamp and some microseconds. The timestamp counts seconds, or milliseconds
if it is too large for seconds. -/
def ofInteger (n : Int) (microsecond : Nat) : Except MomentError Instant :=
  if n.natAbs ≤ secondsLimit then ofSeconds n microsecond
  else ofSeconds (n / 1000) (microsecond + (n % 1000).toNat * 1000)

/-- The greatest size at which a number may still be a timestamp; it is well beyond the
milliseconds of the year 9999. -/
def realLimit : Float := 1.0e15

/-- A number of seconds as microseconds. -/
def microseconds (x : Float) : Nat :=
  (x * 1000000.0).round.toUInt64.toNat

/-- The instant of a number with a fraction. The greatest integer that is not above the number is a
timestamp, and what is left is a part of a second after it. -/
def ofReal (x : Float) : Except MomentError Instant :=
  if x.abs < realLimit then
    ofInteger x.floor.toInt64.toInt (microseconds (x - x.floor))
  else .error .unreadable

/-- The instant of a numeral with a fraction. It counts milliseconds if it is too large for seconds
and is brought to seconds before it is read as a number. -/
def ofDecimal (x : Float) : Except MomentError Instant :=
  ofReal (if secondsLimit.toFloat < x.abs then x / 1000.0 else x)

end Timestamp

end CronPreview.Service
