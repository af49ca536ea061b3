/-
Everything that can go wrong while the program works.

* `SearchError`: what a user is told about a search that found no run;
* `Failure`: the causes, each with what it is about;
* `Failure.ofSearch`, `Failure.ofRuns`: a failure to find runs, told of the expression whose runs were asked
  for; where a number to be told is too long, it is told of that instead;
* `Failure.kind?`, `Failure.token?`, `Failure.message`: what a user is told about a failure;
* `Cron.nextRun`, `Cron.runs`: the next runs of an expression, or the failure to find them.
-/
import CronPreview.Description.Run
import CronPreview.Schedule.Search

namespace CronPreview

/-- What a user is told about a search that found no run. The limit is named in the message, and so it is
one that can be written. -/
inductive SearchError where
  /-- The search came to the end of the calendar. -/
  | calendarEnd
  /-- No minute fired within a number of minutes after the start. -/
  | limitReached (limit : WritableInt) (start : Instant)
deriving DecidableEq

/-- The sentence that tells the user why there is no run. -/
def SearchError.message : SearchError → String
  | calendarEnd => "Could not find the next run before the end of the calendar."
  | limitReached limit _ =>
    if limit.value = twoYears then "Could not find the next run within 2 years."
    else "Could not find the next run within " ++ limit.text ++ " minutes."

/-- Why an operation has no result. -/
inductive Failure where
  /-- The text of an expression was not read. -/
  | parse (e : ParseError)
  /-- The expression with this text has no next run. -/
  | exhausted (source : String) (e : SearchError)
  /-- A negative number of runs was asked for. -/
  | negativeCount (count : WritableInt)
  /-- A number that was to be told is too long to be written. -/
  | longInteger
  /-- The first run was asked for, but no run. -/
  | noFirstRun
  /-- There is no level of records with this name. -/
  | unknownLevel (name : String)
  /-- The zone of an instant has no name. -/
  | zone (e : ZoneError)
deriving DecidableEq

namespace Failure

/-- The failure of a search for runs of the expression with this text. -/
def ofSearch (source : String) : SearchStop → Failure
  | .calendarEnd => exhausted source .calendarEnd
  | .limitReached limit start =>
    (WritableInt.ofInt? limit).elim longInteger fun limit => exhausted source (.limitReached limit start)

/-- A failure to list runs, told of the expression whose runs were asked for. -/
def ofRuns (c : Cron) : RunsError → Failure
  | .negativeCount n => (WritableInt.ofInt? n).elim longInteger negativeCount
  | .search e => ofSearch c.source e

/-- The kind under which a failure of an expression is reported. -/
def kind? : Failure → Option ErrorKind
  | parse (.defect d) => some d.kind
  | exhausted _ _ => some .searchExhausted
  | _ => none

/-- The text that a failure of an expression is about. -/
def token? : Failure → Option String
  | parse (.defect d) => some d.token
  | exhausted source _ => some source
  | _ => none

/-- What a user is told about a failure. -/
def message : Failure → String
  | parse (.defect d) => d.message
  | parse (.longNumeral n) => n.message
  | exhausted _ e => e.message
  | negativeCount n => "Run count must not be negative, got " ++ n.text
  | longInteger => WritableInt.refusal
  | noFirstRun => "list index out of range"
  | unknownLevel name => "module 'logging' has no attribute '" ++ name ++ "'"
  | zone e => e.message

/-- An exhausted search is told about with the message of the search. -/
@[simp] theorem message_exhausted (source : String) (e : SearchError) :
    (exhausted source e).message = e.message := rfl

end Failure

namespace Cron

/-- The first run of an expression after the minute of `start`, among the next `limit` minutes. -/
def nextRun (c : Cron) (start : Instant) (limit : Int) : Except Failure Instant :=
  (c.schedule.nextRun start limit).mapError (.ofSearch c.source)

/-- The next runs of an expression, as many as are asked for. -/
def runs (c : Cron) (count : Int) (start : Instant) (limit : Int) :
    Except Failure (List Instant) :=
  (c.schedule.runs count start limit).mapError (.ofRuns c)

end Cron

end CronPreview
