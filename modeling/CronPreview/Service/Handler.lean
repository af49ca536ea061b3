/-
What the service does with requests.

* `Verdict`: what comes of a request for an expression: an answer, or the reason why there is none;
* `parse`, `preview`, `fires`: the three things that can be asked about an expression;
* `Failure` stands for what no reply tells: it ends the request without one.
-/
import CronPreview.Description.Summary
import CronPreview.Failure
import CronPreview.Journal.Description
import CronPreview.Journal.Search
import CronPreview.Service.Request
import CronPreview.Settings.Basic

namespace CronPreview.Service

/-- What comes of a request for an expression. -/
inductive Verdict (α : Type) where
  | answered (answer : α)
  /-- The expression could not be read. -/
  | rejected (d : Defect)
  /-- The expression has no next run. -/
  | exhausted (e : SearchError)

/-- The answer about what an expression means. -/
structure Parsed where
  source : String
  schedule : Schedule
  description : String

/-- The answer about the next runs of an expression. -/
structure Preview where
  source : String
  runs : List Instant
  first : Instant
  summary : String
  zone : String

/-- The answer about whether an expression fires. -/
structure Matched where
  source : String
  moment : Instant
  fires : Bool

/-- Reads an expression and does something with it. One that cannot be read is rejected, which is
recorded. -/
def withCron {α : Type} (expression : Expression)
    (f : Cron → Journal (Except Failure (Verdict α))) :
    Journal (Except Failure (Verdict α)) := do
  match ← Cron.parseRecorded expression.text with
  | .ok c => f c
  | .error (.defect d) =>
    Journal.write .service .info
      ("Rejected cron expression '" ++ expression.text ++ "': " ++ d.message)
    return .ok (.rejected d)
  | .error (.longNumeral n) => return .error (.parse (.longNumeral n))

/-- Tells what an expression means. -/
def parse (expression : Expression) : Journal (Except Failure (Verdict Parsed)) :=
  withCron expression fun c => do
    match ← Cron.describeRecorded c.source with
    | .ok description => return .ok (.answered ⟨c.source, c.schedule, description⟩)
    | .error n => return .error (.parse (.longNumeral n))

/-- The preview of a list of runs, which must have a first one. -/
def previewOf (localZone : LocalZone) (c : Cron) (runs : List Instant) : Except Failure Preview :=
  match runs with
  | [] => .error .noFirstRun
  | first :: _ =>
    match summary localZone c.source runs, first.zoneName localZone with
    | .ok text, .ok zone => .ok ⟨c.source, runs, first, text, zone⟩
    | .error e, _ | _, .error e => .error (.zone e)

/-- Lists the next runs of an expression, from the current time on if no start is given, and as
many as the settings say if no number is given. -/
def preview (settings : Settings) (localZone : LocalZone) (now : Instant) (request : PreviewRequest) :
    Journal (Except Failure (Verdict Preview)) :=
  withCron request.expression fun c => do
    let count := request.count.elim settings.defaultRunCount fun n => (n.value : Int)
    let start := request.start.getD now
    match ← c.runsRecorded count start settings.searchLimitMinutes with
    | .ok runs => return (previewOf localZone c runs).map .answered
    | .error (.exhausted _ e) =>
      Journal.write .service .info ("No upcoming runs for '" ++ c.source ++ "': " ++ e.message)
      return .ok (.exhausted e)
    | .error e => return .error e

/-- Tells whether an expression fires at a moment. -/
def fires (request : MatchRequest) : Journal (Except Failure (Verdict Matched)) :=
  withCron request.expression fun c =>
    return .ok (.answered
      ⟨c.source, request.moment, c.schedule.matchesInstant request.moment⟩)

end CronPreview.Service
