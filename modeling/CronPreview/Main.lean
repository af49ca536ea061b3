/-
The program: it reads its surroundings, does what its arguments ask for, and prints what comes of
it.

* `readEnvironment`, `readSettings`: the settings, from the environment and from a file in the
  working directory;
* `currentInstant`: the time on the local clock;
* `readLocalZone`: the zone of the local clock;
* `serve`: answers requests from standard input, one to a line;
* `main`: the whole program.
-/
import CronPreview.CommandLine.Program
import CronPreview.Service.Endpoint
import CronPreview.Settings.Sources
import Std.Time.Zoned

namespace CronPreview

/-- The variables of the environment that set something, with names in capitals or in small
letters. -/
def readEnvironment : IO (Variables String) := do
  let names := Setting.all.flatMap fun s => [s.variableName, s.variableName.toUpper]
  let found ← names.mapM fun name => do
    return (← IO.getEnv name).map fun value => (name, value)
  return .ofList (found.filterMap id)

/-- The settings, or what is wrong with them. -/
def readSettings : IO (Except (List InvalidSetting) Settings) := do
  let file ← try IO.FS.readFile ".env" catch _ => pure ""
  return Settings.read (← readEnvironment) file

/-- The time on the local clock. -/
def currentInstant : IO Instant := do
  let t ← Std.Time.PlainDateTime.now
  let date : Date := ⟨t.date.year.toInt.toNat, t.date.month.val.toNat, t.date.day.val.toNat⟩
  let read := Instant.of? date t.time.hour.val.toNat t.time.minute.val.toNat
    t.time.second.val.toNat (t.time.nanosecond.val.toNat / 1000) none
  match read with
  | some now => return now
  | none => throw (IO.userError "the clock shows no date of the calendar")

/-- The zone of the local clock. -/
def readLocalZone : IO LocalZone := do
  let rules ← Std.Time.Database.defaultGetLocalZoneRules
  -- timestamps are counted from 1970 on, moments from the beginning of the calendar
  let epoch : Int := Date.toDay ⟨1970, 1, 1⟩ * secondsPerDay
  let typeAt (u : Int) : Std.Time.TimeZone.LocalTimeType :=
    rules.findLocalTimeTypeForTimestamp (.ofSecondsSinceUnixEpoch (.ofInt (u - epoch)))
  return .ofRules (fun u => (typeAt u).gmtOffset.second.val) fun u => (typeAt u).abbreviation

/-- The message in a line: a method, a path and perhaps a body, with a space between them. -/
def readMessage (line : String) : Service.Message :=
  let (method, rest) := Text.cutAt ' ' (Text.trim line.toList)
  let (target, body) := Text.cutAt ' ' (rest.getD [])
  ⟨String.ofList method, String.ofList target, body.map String.ofList⟩

/-- Prints the records of at least this rank. -/
def printRecords (least : Nat) (records : List Record) : IO Unit :=
  (CommandLine.recordLines least records).forM IO.eprintln

/-- Answers a message with a line that holds a status and a body. -/
def answer (settings : Settings) (least : Nat) (message : Service.Message) : IO Unit := do
  let choice : Int × Int := (← IO.rand 0 59, ← IO.rand 0 23)
  let replied := Service.respond ⟨settings, ← readLocalZone, ← currentInstant, choice⟩ message
  printRecords least replied.records
  match replied.value with
  | .ok r => IO.println (toString r.status ++ " " ++ r.body.write)
  | .error e => IO.println ("500 " ++ (Json.string e.message).write)
  (← IO.getStdout).flush

/-- Answers messages until there are no more lines. -/
def serve (settings : Settings) (least : Nat) : IO Unit := do
  let lifetime := Service.lifetime settings (pure (.ok ()))
  match lifetime.value with
  | .error e => IO.eprintln e.message
  | .ok () =>
    printRecords least (lifetime.records.take 1)
    let input ← IO.getStdin
    repeat
      let line ← input.getLine
      if line.isEmpty then break
      answer settings least (readMessage line)
    printRecords least (lifetime.records.drop 1)

/-- Prints a report, and writes the records down in the file for records. -/
def printReport (settings : Settings) (report : CommandLine.Report) : IO Unit := do
  report.output.forM IO.println
  report.errors.forM IO.eprintln
  if let some lines := report.logFile then
    let file ← IO.FS.Handle.mk settings.logFile .append
    lines.forM fun line => file.putStrLn line

/-- Does what the arguments ask for. -/
def runProgram (settings : Settings) (arguments : List String) : IO UInt32 := do
  let work := CommandLine.run settings (← readLocalZone) (← currentInstant) .returned arguments
  match work.value with
  | .error e =>
    IO.eprintln e.message
    return 1
  | .ok report =>
    printReport settings report
    if report.served.isSome then
      let level := String.ofList (Text.upper settings.logLevel.toList)
      serve settings ((CommandLine.leastRank? level).getD 0)
    return UInt32.ofNat (report.exitCode.getD 0)

end CronPreview

/-- The whole program. -/
def main (arguments : List String) : IO UInt32 := do
  match ← CronPreview.readSettings with
  | .ok settings => CronPreview.runProgram settings arguments
  | .error faults =>
    faults.forM fun f => IO.eprintln (f.name ++ ": " ++ f.fault.name)
    return 1
