/-
How runs are shown to people.

* `Instant.runText`: the day of the week, the date and the time of day, as in
  `Tue, Jan 02, 2024, 04:05`;
* `Instant.clockText`, `clockText`: the time of day, which may be unknown;
* `Instant.zoneName`: the name of the zone in which an instant is shown.
-/
import CronPreview.Calendar.LocalZone
import CronPreview.Calendar.Notation
import CronPreview.Description.Label

namespace CronPreview

namespace Instant

/-- The time of day. -/
def clockText (t : Instant) : String :=
  String.ofList (writeClock t.hourOfDay t.minuteOfHour)

/-- The day of the week, the date and the time of day. The year is written without zeros in front
of it. -/
def runText (t : Instant) : String :=
  weekdayShort t.dayOfWeek ++ ", " ++ monthLabel t.date.month ++ " "
    ++ String.ofList (Numeral.padded 2 t.date.day) ++ ", "
    ++ String.ofList (Numeral.render t.date.year) ++ ", " ++ t.clockText

/-- The name of the zone in which an instant is shown, which is the local one for a clock without a
zone. -/
def zoneName (localZone : LocalZone) (t : Instant) : Except ZoneError String :=
  let name : Except ZoneError String := match t.zone with
    | some z => .ok z.name
    | none => localZone.nameAt (60 * t.minute + t.second : Nat)
  name.map fun name => if name = "" then "local" else name

end Instant

/-- The time of day of an instant, if there is one. -/
def clockText : Option Instant → String
  | some t => t.clockText
  | none => "--:--"

end CronPreview
