/-
The local zone: the one that clocks without a zone of their own show.

* `LocalZone`: the distance of local time from UTC, and its name, both of which may change with time;
* `ZoneError`: why a local time has no name;
* `LocalZone.offsetAt`: the distance at a moment whose local time the calendar has;
* `LocalZone.moment`: the moment at which a local time is shown;
* `LocalZone.nameAt`: the name of the zone at a local time.

Moments and local times are seconds, counted from the beginning of the calendar.
-/
import CronPreview.Calendar.Instant

namespace CronPreview

/-- The seconds of a day. -/
def secondsPerDay : Nat := 86400

/-- The seconds of the calendar. -/
def calendarSeconds : Nat := calendarMinutes * 60

/-- The letters, digits and signs of which the names of local zones are made. -/
def isZoneNameChar (c : Char) : Bool := c.isAlphanum || c == '+' || c == '-'

/-- The zone of clocks that have no zone of their own. -/
structure LocalZone where
  /-- How many seconds local time is ahead of UTC at a moment. -/
  offset : Int → Int
  /-- Local time is less than a day away from UTC. -/
  offset_lt : ∀ u, (offset u).natAbs < secondsPerDay
  /-- The name of the zone at a moment. -/
  name : Int → String
  name_chars : ∀ u, ∀ c ∈ (name u).toList, isZoneNameChar c = true

/-- Why a local time has no name. -/
inductive ZoneError where
  /-- A local time that was looked up lies before the first year of the calendar. -/
  | beforeCalendar
  /-- A local time that was looked up lies after the last year of the calendar. -/
  | afterCalendar
  /-- The same moment has no date in UTC, or none when it is shown in local time again. -/
  | noDate
deriving DecidableEq, Repr

/-- What is said when a zone has no name. -/
def ZoneError.message : ZoneError → String
  | beforeCalendar => "year 0 is out of range"
  | afterCalendar => "year 10000 is out of range"
  | noDate => "date value out of range"

namespace LocalZone

/-- Local time is UTC. -/
def utc : LocalZone where
  offset _ := 0
  offset_lt _ := by decide
  name _ := "UTC"
  name_chars _ := List.all_eq_true.mp rfl

/-- The zone with these distances and names; a distance of a day or more counts as none, and what no
name is made of is left out. -/
def ofRules (offset : Int → Int) (name : Int → String) : LocalZone where
  offset u := if (offset u).natAbs < secondsPerDay then offset u else 0
  offset_lt u := by
    split
    · assumption
    · decide
  name u := String.ofList ((name u).toList.filter isZoneNameChar)
  name_chars u c hc := by
    rw [String.toList_ofList] at hc
    exact (List.mem_filter.mp hc).2

/-- How far local time is ahead at a moment, if the calendar has the local time of it. -/
def offsetAt (z : LocalZone) (u : Int) : Except ZoneError Int :=
  if u + z.offset u < 0 then .error .beforeCalendar
  else if calendarSeconds ≤ u + z.offset u then .error .afterCalendar
  else .ok (z.offset u)

/-- The moment at which the zone shows the local time `t`; if there are two, the earlier one. There
is none in the hour that is left out when clocks are put forward, which counts as if they had not
been. The distance is looked up at several moments, a day before the one that was found first among
them. -/
def moment (z : LocalZone) (t : Int) : Except ZoneError Int := do
  let a ← z.offsetAt t
  let a' ← z.offsetAt (t - a)
  let b ← (if a' = a then z.offsetAt (t - a - secondsPerDay) else .ok a')
  if b = a then return t - a
  let b' ← z.offsetAt (t - b)
  return if b' = b then t - b else if a' = a then t - a else max (t - a) (t - b)

/-- The name of the zone when it shows the local time `t`, which is brought to UTC and back. -/
def nameAt (z : LocalZone) (t : Int) : Except ZoneError String := do
  let u := t - z.offset (← z.moment t)
  if 0 ≤ u ∧ u < calendarSeconds ∧ 0 ≤ u + z.offset u ∧ u + z.offset u < calendarSeconds then
    return z.name u
  else throw .noDate

end LocalZone

end CronPreview
