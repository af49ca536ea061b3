/-
Which minutes a schedule fires at.

* `Schedule.firesAt`: the five fields of a whole minute are in the five sets;
* `Schedule.matchesInstant`: the same for the minute of an instant;
* `Schedule.firesAt_iff`: all five sets have a say, also day of month and day of week.
-/
import CronPreview.Calendar.Instant
import CronPreview.Schedule.Basic

namespace CronPreview.Schedule

/-- The schedule fires at the `m`-th whole minute of the calendar. The date is looked at only when
the time of day is one at which the schedule fires. -/
def firesAt (s : Schedule) (m : Nat) : Bool :=
  decide ((minuteOfHour m : Int) ∈ s.minute) && decide ((hourOfDay m : Int) ∈ s.hour)
    && (let date := Date.ofDay (dayOf m)
        decide ((date.day : Int) ∈ s.dayOfMonth) && decide ((date.month : Int) ∈ s.month))
    && decide ((CronPreview.dayOfWeek (dayOf m) : Int) ∈ s.dayOfWeek)

/-- The schedule fires in the minute that an instant belongs to. -/
def matchesInstant (s : Schedule) (t : Instant) : Bool :=
  s.firesAt t.minute

/-- A schedule fires when each of the five fields of a minute is in its set. -/
theorem firesAt_iff {s : Schedule} {m : Nat} :
    s.firesAt m = true ↔
      (minuteOfHour m : Int) ∈ s.minute ∧ (hourOfDay m : Int) ∈ s.hour
        ∧ ((Date.ofDay (dayOf m)).day : Int) ∈ s.dayOfMonth
        ∧ ((Date.ofDay (dayOf m)).month : Int) ∈ s.month
        ∧ (CronPreview.dayOfWeek (dayOf m) : Int) ∈ s.dayOfWeek := by
  simp [firesAt, and_assoc]

end CronPreview.Schedule
