/-
Schedules: the sets of values that the five fields of an expression allow.

* `Schedule`: the five sets, by which two schedules are equal or not;
* `Schedule.fieldSets`: the five sets, in the order of the fields;
* `Cron`: a schedule with the text that it was written as;
* `Cron.parse`: reads five fields separated by blanks;
* `Cron.check`: whether a text can be read.
-/
import CronPreview.Field.Basic

namespace CronPreview

/-- The values that each field of an expression allows. -/
structure Schedule where
  minute : FieldSet
  hour : FieldSet
  dayOfMonth : FieldSet
  month : FieldSet
  /-- The days of the week, counted from Sunday. -/
  dayOfWeek : FieldSet
deriving DecidableEq

namespace Schedule

/-- The five sets, in the order of the fields. -/
def fieldSets (s : Schedule) : List FieldSet :=
  [s.minute, s.hour, s.dayOfMonth, s.month, s.dayOfWeek]

end Schedule

/-- A schedule with the text that it was written as, without the blanks around it. -/
structure Cron where
  source : String
  schedule : Schedule
deriving DecidableEq

namespace Cron

/-- Reads the five fields, each in its domain; the first field with an error decides. -/
def parseFields (minute hour dayOfMonth month dayOfWeek : List Char) :
    Except ParseError Schedule := do
  let minutes ← Field.parse .minute minute
  let hours ← Field.parse .hour hour
  let days ← Field.parse .dayOfMonth dayOfMonth
  let months ← Field.parse .month month
  let weekdays ← Field.parse .dayOfWeek dayOfWeek
  return ⟨minutes, hours, days, months, weekdays⟩

/-- Reads an expression: five fields separated by blanks. -/
def parse (text : String) : Except ParseError Cron :=
  match Text.words text.toList with
  | [minute, hour, dayOfMonth, month, dayOfWeek] =>
    (parseFields minute hour dayOfMonth month dayOfWeek).map
      (Cron.mk (String.ofList (Text.trim text.toList)))
  | _ => .error (.defect (.wrongFieldCount text))

/-- Whether a text can be read as an expression. A numeral that is too long prevents an answer. -/
def check (text : String) : Except LongNumeral Bool :=
  match parse text with
  | .ok _ => .ok true
  | .error (.defect _) => .ok false
  | .error (.longNumeral n) => .error n

end Cron

end CronPreview
