/-
What is recorded while runs are searched for.

* `Cron.searchRecord`: what a failed search writes;
* `Cron.nextRunRecorded`, `Cron.runsRecorded`: the searches, whose failures are recorded;
* `Cron.value_nextRunRecorded`, `Cron.value_runsRecorded`: the records do not change what is found.
-/
import CronPreview.Calendar.Notation
import CronPreview.Failure
import CronPreview.Journal.Schedule

namespace CronPreview.Cron

/-- What a failed search writes in the journal. -/
def searchRecord (c : Cron) : SearchError → String
  | .calendarEnd => "Search for '" ++ c.source ++ "' ran past 9999-12-31 23:59:59.999999"
  | .limitReached limit start =>
    "No match for '" ++ c.source ++ "' within " ++ limit.text ++ " minutes of " ++ start.spaced

/-- What was found, or the failure of the search, which is recorded unless its limit is too long to be
written. -/
def recorded {α : Type} (c : Cron) : Except Failure α → Journal (Except Failure α)
  | .error (.exhausted source e) => do
    Journal.write .search .debug (c.searchRecord e)
    return .error (.exhausted source e)
  | found => return found

/-- The next run of an expression; a failure is recorded. -/
def nextRunRecorded (c : Cron) (start : Instant) (limit : Int) :
    Journal (Except Failure Instant) :=
  c.recorded (c.nextRun start limit)

/-- The next runs of an expression; the failure of a search is recorded. -/
def runsRecorded (c : Cron) (count : Int) (start : Instant) (limit : Int) :
    Journal (Except Failure (List Instant)) :=
  c.recorded (c.runs count start limit)

/-- Recording does not change what was found. -/
@[simp] theorem value_recorded {α : Type} (c : Cron) (found : Except Failure α) :
    (c.recorded found).value = found := by
  rw [recorded.eq_def]
  split <;> rfl

/-- Recording does not change the next run. -/
@[simp] theorem value_nextRunRecorded (c : Cron) (start : Instant) (limit : Int) :
    (c.nextRunRecorded start limit).value = c.nextRun start limit :=
  c.value_recorded _

/-- Recording does not change the runs. -/
@[simp] theorem value_runsRecorded (c : Cron) (count : Int) (start : Instant) (limit : Int) :
    (c.runsRecorded count start limit).value = c.runs count start limit :=
  c.value_recorded _

end CronPreview.Cron
