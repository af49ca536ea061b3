/-
Dates of the Gregorian calendar, extended to all years from 1 to 9999, and their day numbers: the
number of days since the first of January of the year 1, which was a Monday.

* `Date`: a year, a month and a day; `Date.IsValid`: it is a date of the calendar;
* `Date.toDay`, `Date.ofDay`: the day number of a date, and the date of a day number;
* `dayOfWeek`: the day of the week of a day number, counted from Sunday.
-/

namespace CronPreview

/-- A year is a leap year when four divides it, unless it is a century that 400 does not divide. -/
def isLeap (year : Nat) : Bool :=
  year % 4 == 0 && (year % 100 != 0 || year % 400 == 0)

/-- The lengths of the months of a common year. -/
def commonMonths : List Nat :=
  [31, 28, 31, 30, 31, 30, 31, 31, 30, 31, 30, 31]

/-- The lengths of the months of a leap year. -/
def leapMonths : List Nat :=
  [31, 29, 31, 30, 31, 30, 31, 31, 30, 31, 30, 31]

/-- The lengths of the months of a year. -/
def monthLengths (year : Nat) : List Nat :=
  if isLeap year then leapMonths else commonMonths

/-- The number of days in the years before `year`. -/
def daysBeforeYear (year : Nat) : Nat :=
  let y := year - 1
  365 * y + y / 4 - y / 100 + y / 400

/-- A year, a month and a day, each counted from one. -/
structure Date where
  year : Nat
  month : Nat
  day : Nat
deriving DecidableEq, Repr

namespace Date

/-- A date of the calendar: the month is one of twelve, and the day one of the month. -/
def IsValid (d : Date) : Prop :=
  (1 ≤ d.year ∧ d.year ≤ 9999) ∧ 1 ≤ d.month
    ∧ 1 ≤ d.day ∧ d.day ≤ (monthLengths d.year).getD (d.month - 1) 0

instance (d : Date) : Decidable d.IsValid :=
  inferInstanceAs (Decidable (_ ∧ _))

/-- The length of stretches that follow each other. -/
def total : List Nat → Nat
  | [] => 0
  | l :: ls => l + total ls

/-- The day number of a date. -/
def toDay (d : Date) : Nat :=
  daysBeforeYear d.year + total ((monthLengths d.year).take (d.month - 1)) + (d.day - 1)

/-- Finds the stretch in which the `n`-th place lies when stretches of these lengths follow each
other: how many stretches go before it, and the place in it, both counted from zero. -/
def locate : List Nat → Nat → Nat × Nat
  | [], n => (0, n)
  | l :: ls, n =>
    if n < l then (0, n)
    else
      let (i, r) := locate ls (n - l)
      (i + 1, r)

/-- The year in which a day lies, and the number of days in that year before it. Four centuries
have always the same length; within them all centuries but the last, within a century all leap
cycles, and within a cycle all years but the last have the same length too. -/
def yearOfDay (n : Nat) : Nat × Nat :=
  let r₄₀₀ := n % 146097
  let centuries := min 3 (r₄₀₀ / 36524)
  let r₁₀₀ := r₄₀₀ - centuries * 36524
  let r₄ := r₁₀₀ % 1461
  let years := min 3 (r₄ / 365)
  (n / 146097 * 400 + centuries * 100 + r₁₀₀ / 1461 * 4 + years + 1, r₄ - years * 365)

/-- The date of a day number. -/
def ofDay (n : Nat) : Date :=
  let (year, r) := yearOfDay n
  let (month, day) := locate (monthLengths year) r
  ⟨year, month + 1, day + 1⟩

end Date

/-- The day of the week of a day number, counted from Sunday. The first day was a Monday. -/
def dayOfWeek (n : Nat) : Nat :=
  (n + 1) % 7

end CronPreview
