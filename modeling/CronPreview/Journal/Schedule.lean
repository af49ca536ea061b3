/-
What is recorded while expressions are read.

* `Cron.parseRecorded`: reading, which records every expression that was read;
* `Cron.checkRecorded`: the check of a text, which records why a text was refused;
* `Cron.value_parseRecorded`, `Cron.value_checkRecorded`: the records do not change the answers.
-/
import CronPreview.Journal.Basic
import CronPreview.Schedule.Basic

namespace CronPreview.Cron

/-- Reads an expression and records that it was read. -/
def parseRecorded (text : String) : Journal (Except ParseError Cron) :=
  match parse text with
  | .ok c => do
    Journal.write .parsing .debug ("Parsed cron expression '" ++ c.source ++ "'")
    return .ok c
  | .error e => return .error e

/-- Checks a text, and records the defect for which it was refused. -/
def checkRecorded (text : String) : Journal (Except LongNumeral Bool) := do
  match ← parseRecorded text with
  | .ok _ => return .ok true
  | .error (.defect d) =>
    Journal.write .parsing .error ("Invalid cron expression '" ++ text ++ "': " ++ d.message)
    return .ok false
  | .error (.longNumeral n) => return .error n

/-- Recording does not change what is read. -/
@[simp] theorem value_parseRecorded (text : String) : (parseRecorded text).value = parse text := by
  rw [parseRecorded]
  split <;> simp [*]

/-- Recording does not change the outcome of a check. -/
@[simp] theorem value_checkRecorded (text : String) : (checkRecorded text).value = check text := by
  rw [checkRecorded, check, Journal.value_bind, value_parseRecorded]
  cases parse text with
  | ok c => rfl
  | error e => cases e <;> rfl

end CronPreview.Cron
