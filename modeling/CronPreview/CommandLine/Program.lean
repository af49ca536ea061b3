/-
The program behind the command line.

* `previewLines`: the lines that list runs;
* `runPreview`: lists the next runs of an expression, or records why it cannot;
* `runServer`: starts the server and records how it ends;
* `run`: what comes of a list of arguments.
-/
import CronPreview.CommandLine.Report
import CronPreview.Description.Summary
import CronPreview.Failure
import CronPreview.Journal.Search
import CronPreview.Text.Upper

namespace CronPreview.CommandLine

/-- What comes of a command, before its records are written down. -/
structure Result where
  exitCode : Option Nat
  output : List String := []
  complaint : Option UsageError := none
  served : Option ServerCall := none

/-- The line for the run with this number. -/
def runLine (number : Nat) (t : Instant) : String :=
  String.ofList (Numeral.render number) ++ ". " ++ t.runText

/-- The lines that list runs from the number `n` on. -/
def runLines : (n : Nat) → List Instant → List String
  | _, [] => []
  | n, t :: ts => runLine n t :: runLines (n + 1) ts

/-- The lines that list runs and sum them up; an empty summary takes no line. -/
def previewLines (runs : List Instant) (summary : String) : List String :=
  runLines 1 runs ++ if summary = "" then [] else (Text.lines summary.toList).map String.ofList

/-- Records why there is no preview. -/
def refuse (kind : ErrorKind) (message : String) : Journal (Except Failure Result) := do
  Journal.write .commandLine .error (kind.name ++ ": " ++ message)
  return .ok { exitCode := some 1 }

/-- Lists the next runs of an expression from the current time on. -/
def runPreview (settings : Settings) (localZone : LocalZone) (now : Instant) (expression : String)
    (count : Int) : Journal (Except Failure Result) := do
  match ← Cron.parseRecorded expression with
  | .error (.defect d) => refuse d.kind d.message
  | .error (.longNumeral n) => return .error (.parse (.longNumeral n))
  | .ok c =>
    match ← c.runsRecorded count now settings.searchLimitMinutes with
    | .error (.exhausted _ e) => refuse .searchExhausted e.message
    | .error e => return .error e
    | .ok runs =>
      match summary localZone c.source runs with
      | .ok text => return .ok { exitCode := some 0, output := previewLines runs text }
      | .error e => return .error (.zone e)

/-- Records that the server has failed. -/
def fail (message : String) (served : Option ServerCall) : Journal Result := do
  Journal.write .commandLine .error ("Fatal error: " ++ message)
  return { exitCode := some 1, served := served }

/-- Starts the server and records how it ends. A port that is too long to be recorded is a failure
before the server is started. -/
def runServer (settings : Settings) (ending : ServerEnd) (a : Arguments) : Journal Result := do
  let call : ServerCall :=
    { app := "api.http_server:app"
      host := a.host
      port := a.port
      reload := settings.apiReload
      logLevel := String.ofList (Text.lower settings.logLevel.toList) }
  match WritableInt.ofInt? a.port with
  | none => fail WritableInt.refusal none
  | some port =>
    Journal.write .commandLine .info ("Starting HTTP server on " ++ a.host ++ ":" ++ port.text)
    match ending with
    | .returned => return { exitCode := none, served := some call }
    | .interrupted =>
      Journal.write .commandLine .info "Shutting down ChronoPeek..."
      return { exitCode := none, served := some call }
    | .failed message => fail message (some call)

/-- Does what the arguments ask for. A preview needs an expression that is not empty, and a number
of runs that is not negative. -/
def perform (settings : Settings) (localZone : LocalZone) (now : Instant) (ending : ServerEnd)
    (a : Arguments) : Journal (Except Failure Result) :=
  match a.mode with
  | .preview =>
    match a.expression with
    | none | some "" => return .ok { exitCode := some 2, complaint := some .missingExpression }
    | some expression =>
      if a.count < 0 then
        return .ok { exitCode := some 2, complaint := some .negativeCount }
      else runPreview settings localZone now expression a.count
  | .http => do return .ok (← runServer settings ending a)

/-- What is left behind when the records of at least some rank are written down. -/
def Result.report (r : Result) (settings : Settings) (least : Nat) (records : List Record) :
    Report :=
  let lines := recordLines least records
  { exitCode := r.exitCode
    output := r.output
    errors := lines ++ (r.complaint.map UsageError.line).toList
    logFile := if settings.logFile = "" then none else some lines
    served := r.served }

/-- What comes of a list of arguments. The text of `--help` names numbers of the settings and is made
first; the arguments are read before records can be written down, and the level of the records is
looked up before anything is done. -/
def run (settings : Settings) (localZone : LocalZone) (now : Instant) (ending : ServerEnd)
    (arguments : List String) : Journal (Except Failure Report) :=
  let early (code : Nat) (errors : List String) : Report :=
    { exitCode := some code, output := [], errors := errors, logFile := none, served := none }
  let named := [settings.defaultRunCount, settings.apiPort]
  if named.any fun n => (WritableInt.ofInt? n).isNone then return .error .longInteger
  else match Command.read settings arguments with
  | .error e => return .ok (early 2 [e.line])
  | .ok .help => return .ok (early 0 [])
  | .ok (.run a) =>
    let level := String.ofList (Text.upper settings.logLevel.toList)
    match leastRank? level with
    | none => return .error (.unknownLevel level)
    | some least => do
      let work := perform settings localZone now ending a
      return (← work).map fun r => r.report settings least work.records

end CronPreview.CommandLine
