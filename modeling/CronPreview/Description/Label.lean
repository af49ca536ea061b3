/-
The English names of months and days of the week.

* `monthLabels`, `weekdayLabels`: the names, in order;
* `monthLabel`, `weekdayLabel`: the name of a number, of the months counted from one;
* `weekdayShort`: the first three letters of the name of a day.
-/

namespace CronPreview

/-- The months, by the names that they are written with. -/
def monthLabels : List String :=
  ["Jan", "Feb", "Mar", "Apr", "May", "Jun", "Jul", "Aug", "Sep", "Oct", "Nov", "Dec"]

/-- The days of the week from Sunday on. -/
def weekdayLabels : List String :=
  ["Sunday", "Monday", "Tuesday", "Wednesday", "Thursday", "Friday", "Saturday"]

/-- The label of a month, counted from one. -/
def monthLabel (month : Nat) : String :=
  monthLabels.getD (month - 1) ""

/-- The label of a day of the week, counted from Sunday. -/
def weekdayLabel (day : Nat) : String :=
  weekdayLabels.getD day ""

/-- The first three letters of the label of a day. -/
def weekdayShort (day : Nat) : String :=
  String.ofList ((weekdayLabel day).toList.take 3)

end CronPreview
