/-
When an expression fires next, in one sentence.

* `readsDaily`: the text of an expression names a minute and an hour and nothing else;
* `summary`: the sentence, which is empty when there is nothing to say;
* `dailyExpression`: an expression that is summed up by a time of day.
-/
import CronPreview.Description.Run
import CronPreview.Text.Blank

namespace CronPreview

/-- The expression leaves open every day and closes both the minute and the hour. -/
def readsDaily (minute hour dayOfMonth month dayOfWeek : List Char) : Bool :=
  dayOfMonth == ['*'] && month == ['*'] && dayOfWeek == ['*'] && hour != ['*'] && minute != ['*']

/-- One sentence about the runs of an expression. One that reads as daily is told with its time of
day, any other with its first run and the zone of that run. -/
def summary (localZone : LocalZone) (text : String) (runs : List Instant) : Except ZoneError String :=
  match Text.words text.toList with
  | [minute, hour, dayOfMonth, month, dayOfWeek] =>
    if readsDaily minute hour dayOfMonth month dayOfWeek then
      .ok ("At " ++ clockText runs.head? ++ " every day.")
    else
      match runs.head? with
      | none => .ok ""
      | some run =>
        (run.zoneName localZone).map fun zone => "Next run is " ++ run.runText ++ " (" ++ zone ++ ")."
  | _ => .ok ""

/-- The expression that fires every day at this time. -/
def dailyExpression (minute hour : Int) : String :=
  String.ofList (Numeral.renderInt minute ++ ' ' :: Numeral.renderInt hour) ++ " * * *"

end CronPreview
