/-
The runs of a schedule: the search for the minutes at which it fires next.

* `SearchStop`, `RunsError`: why there is no next run, and why there is no list of runs;
* `Schedule.searchFrom`: the search, one candidate after the other;
* `Schedule.nextRun`: the first run after an instant, within a number of minutes;
* `Schedule.runs`: a list of runs, each searched for from one minute past the one before.
-/
import CronPreview.Schedule.Matches

namespace CronPreview

/-- The number of minutes in two leap years, which is how far a search goes unless told. -/
def twoYears : Int := 2 * 366 * 24 * 60

/-- Why a search found no run. -/
inductive SearchStop where
  /-- The search came to the end of the calendar. -/
  | calendarEnd
  /-- No minute fired within a number of minutes after the start. -/
  | limitReached (limit : Int) (start : Instant)
deriving DecidableEq

/-- Why there is no list of runs. -/
inductive RunsError where
  /-- A negative number of runs was asked for. -/
  | negativeCount (count : Int)
  | search (e : SearchStop)
deriving DecidableEq

namespace Schedule

/-- Tests candidates one by one, each a minute after the one before, until the schedule fires at one
of them. After `n` candidates the limit is reached, and where there is no candidate the calendar has
come to its end, which is noticed before the limit is. -/
def searchFrom (s : Schedule) (limit : Int) (start : Instant) :
    (n : Nat) → (candidate : Option Instant) → Except SearchStop Instant
  | _, none => .error .calendarEnd
  | 0, some _ => .error (.limitReached limit start)
  | n + 1, some t => if s.matchesInstant t then .ok t else s.searchFrom limit start n t.roundUp

/-- The first run after the minute of `start`, among the next `limit` minutes. -/
def nextRun (s : Schedule) (start : Instant) (limit : Int) : Except SearchStop Instant :=
  s.searchFrom limit start limit.toNat start.roundUp

/-- The next `n` runs. Each search begins one minute past the run before it; that minute must
exist also after the last run. -/
def nextRuns (s : Schedule) (limit : Int) (start : Instant) : (n : Nat) →
    Except SearchStop (List Instant)
  | 0 => .ok []
  | n + 1 => do
    let run ← s.nextRun start limit
    match run.roundUp with
    | none => throw .calendarEnd
    | some cursor => return run :: (← s.nextRuns limit cursor n)

/-- A list of the next runs, as many as are asked for. -/
def runs (s : Schedule) (count : Int) (start : Instant) (limit : Int) :
    Except RunsError (List Instant) :=
  if count < 0 then .error (.negativeCount count)
  else (s.nextRuns limit start count.toNat).mapError .search

end Schedule

end CronPreview
