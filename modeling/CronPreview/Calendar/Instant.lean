/-
Instants: moments of the calendar as a wall clock shows them.

* `Zone`: a fixed distance from UTC, with a name;
* `Instant`: a whole minute of the calendar, the time since that minute began, and a zone if one
  is known;
* `Instant.date`, `Instant.hourOfDay`, `Instant.minuteOfHour`, `Instant.dayOfWeek`: the fields of
  the clock, which depend on the whole minute alone;
* `Instant.of?`: the instant with given fields, if there is one;
* `Instant.atMinute?`: another whole minute in the same zone, if the calendar has it;
* `Instant.roundUp`: the next whole minute.
-/
import CronPreview.Calendar.Date

namespace CronPreview

/-- The minutes of a day. -/
def minutesPerDay : Nat := 1440

/-- The whole minutes of the calendar, from the first one of the year 1 to the last one of the
year 9999. -/
def calendarMinutes : Nat := 3652059 * minutesPerDay

/-- A time zone at a fixed distance from UTC. -/
structure Zone where
  /-- The distance in seconds, positive to the east. -/
  offset : Int
  name : String
deriving DecidableEq, Repr

/-- A moment of the calendar as a wall clock shows it. -/
structure Instant where
  /-- The whole minute, counted from the first minute of the calendar. -/
  minute : Nat
  minute_lt : minute < calendarMinutes
  /-- The whole seconds since the minute began. -/
  second : Nat := 0
  second_lt : second < 60 := by decide
  /-- The microseconds since the second began. -/
  microsecond : Nat := 0
  microsecond_lt : microsecond < 1000000 := by decide
  /-- The zone of the clock; a clock without one shows local time. -/
  zone : Option Zone := none
deriving DecidableEq

/-! ### The fields of a whole minute -/

/-- The minute of the hour. -/
def minuteOfHour (m : Nat) : Nat := m % 60

/-- The hour of the day. -/
def hourOfDay (m : Nat) : Nat := m / 60 % 24

/-- The day number of the day. -/
def dayOf (m : Nat) : Nat := m / minutesPerDay

namespace Instant

/-- The minute of the hour that the clock shows. -/
def minuteOfHour (t : Instant) : Nat := CronPreview.minuteOfHour t.minute

/-- The hour of the day that the clock shows. -/
def hourOfDay (t : Instant) : Nat := CronPreview.hourOfDay t.minute

/-- The date that the clock shows. -/
def date (t : Instant) : Date := .ofDay (dayOf t.minute)

/-- The day of the week, counted from Sunday. -/
def dayOfWeek (t : Instant) : Nat := CronPreview.dayOfWeek (dayOf t.minute)

/-- The number of the whole minute with this date, hour and minute. -/
def minuteNumber (d : Date) (hour minute : Nat) : Nat :=
  d.toDay * minutesPerDay + hour * 60 + minute

/-- The instant that a clock shows with these fields, if it can show them. -/
def of? (d : Date) (hour minute second microsecond : Nat) (zone : Option Zone) :
    Option Instant :=
  if h : d.IsValid ∧ hour < 24 ∧ minute < 60 ∧ second < 60 ∧ microsecond < 1000000
      ∧ minuteNumber d hour minute < calendarMinutes then
    some
      { minute := minuteNumber d hour minute
        minute_lt := h.2.2.2.2.2
        second := second
        second_lt := h.2.2.2.1
        microsecond := microsecond
        microsecond_lt := h.2.2.2.2.1
        zone := zone }
  else none

/-- The beginning of another whole minute on the same clock, if the calendar has that minute. -/
def atMinute? (t : Instant) (m : Nat) : Option Instant :=
  if h : m < calendarMinutes then some { minute := m, minute_lt := h, zone := t.zone } else none

/-- The beginning of the next whole minute, if the calendar has one. -/
def roundUp (t : Instant) : Option Instant :=
  t.atMinute? (t.minute + 1)

/-- The other minute is shown by the same clock, at its very beginning. -/
theorem atMinute?_eq_some_iff {t r : Instant} {m : Nat} :
    t.atMinute? m = some r
      ↔ r.minute = m ∧ r.second = 0 ∧ r.microsecond = 0 ∧ r.zone = t.zone := by
  rw [atMinute?]
  split
  · next h =>
    obtain ⟨m', h', s, _, u, _, z⟩ := r
    simp only [Option.some.injEq, mk.injEq]
    constructor
    · rintro ⟨rfl, rfl, rfl, rfl⟩
      simp
    · rintro ⟨rfl, rfl, rfl, rfl⟩
      simp
  · next h =>
    simp only [reduceCtorEq, false_iff, not_and]
    intro e
    exact absurd (e ▸ r.minute_lt) h

end Instant

end CronPreview
