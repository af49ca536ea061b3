/-
The meaning of an expression in words.

* `commonPatterns`: expressions that have a description of their own;
* `Clause`: what one field that is not a lone star adds to a description;
* `clauses`: the clauses of the five fields, in their order;
* `Cron.describe`: the description of a text, which is the text itself if it cannot be read.
-/
import CronPreview.Description.Label
import CronPreview.Schedule.Basic

namespace CronPreview

/-- Expressions that have a description of their own, in alphabetical order. -/
def commonPatterns : List (String × String) :=
  [("* * * * *", "Every minute"),
   ("*/10 * * * *", "Every 10 minutes"),
   ("*/15 * * * *", "Every 15 minutes"),
   ("*/30 * * * *", "Every 30 minutes"),
   ("*/5 * * * *", "Every 5 minutes"),
   ("0 * * * *", "Every hour"),
   ("0 */12 * * *", "Every 12 hours"),
   ("0 */2 * * *", "Every 2 hours"),
   ("0 */6 * * *", "Every 6 hours"),
   ("0 0 * * *", "Daily at midnight"),
   ("0 0 * * 0", "Weekly on Sunday at midnight"),
   ("0 0 * * 1", "Weekly on Monday at midnight"),
   ("0 0 1 * *", "Monthly on the 1st at midnight"),
   ("0 0 1 1 *", "Yearly on January 1st at midnight"),
   ("0 12 * * *", "Daily at noon")]

/-- What one field adds to a description. -/
inductive Clause where
  | everyMinutes (step : List Char)
  | atMinute (field : List Char)
  | everyHours (step : List Char)
  | atHour (field : List Char)
  | onDay (field : List Char)
  | inMonths (months : FieldSet)
  | onWeekdays (days : FieldSet)
deriving DecidableEq

/-- The words of a clause. Months and days of the week are listed by their names. -/
def Clause.text : Clause → String
  | everyMinutes step => "every " ++ String.ofList step ++ " minutes"
  | atMinute field => "at minute " ++ String.ofList field
  | everyHours step => "every " ++ String.ofList step ++ " hours"
  | atHour field => "at hour " ++ String.ofList field
  | onDay field => "on day " ++ String.ofList field
  | inMonths months =>
    "in " ++ ", ".intercalate (months.toList.map fun m => monthLabel m.toNat)
  | onWeekdays days =>
    "on " ++ ", ".intercalate (days.toList.map fun d => weekdayLabel d.toNat)

/-- The step of a field that is nothing but a stepped star. -/
def wholeStep? : List Char → Option (List Char)
  | '*' :: '/' :: ds => if Numeral.isNumeral ds then some ds else none
  | _ => none

/-- The clause of a field, unless the field is a lone star. -/
def clause? (field : List Char) (clause : Clause) : Option Clause :=
  if field = ['*'] then none else some clause

/-- The clauses of the fields of a schedule, in their order. -/
def clauses (s : Schedule) (minute hour dayOfMonth month dayOfWeek : List Char) : List Clause :=
  [clause? minute ((wholeStep? minute).elim (.atMinute minute) .everyMinutes),
   clause? hour ((wholeStep? hour).elim (.atHour hour) .everyHours),
   clause? dayOfMonth (.onDay dayOfMonth),
   clause? month (.inMonths s.month),
   clause? dayOfWeek (.onWeekdays s.dayOfWeek)].filterMap id

/-- The sentence made of clauses. -/
def sentence : List Clause → String
  | [] => "Every minute"
  | cs => "Runs " ++ ", ".intercalate (cs.map Clause.text)

namespace Cron

/-- The sentence that describes a schedule written with these words. -/
def sentenceOf (s : Schedule) : List (List Char) → String
  | [minute, hour, dayOfMonth, month, dayOfWeek] =>
    sentence (clauses s minute hour dayOfMonth month dayOfWeek)
  | _ => ""

/-- The description of a text: the one that a common expression has of its own, a sentence of
clauses for any other expression, and the text itself if it cannot be read. In each case only the
words of the text count, and not the blanks between them. -/
def describe (text : String) : Except LongNumeral String :=
  let words := Text.words text.toList
  let spaced := String.ofList (Text.respaced text.toList)
  match commonPatterns.lookup spaced with
  | some description => .ok description
  | none =>
    match parse spaced with
    | .ok c => .ok (sentenceOf c.schedule words)
    | .error (.defect _) => .ok spaced
    | .error (.longNumeral n) => .error n

end Cron

end CronPreview
