/-
The domain of a field: the interval of its values and the names it has for them.

* `NameTable`: names for values, of months and of days of the week;
* `Domain`: a closed interval of integers with an optional table of names;
* `Domain.all`: the five domains of an expression, in the order of its fields;
* `Domain.normalize`: the seventh day of the week is Sunday again.
-/

namespace CronPreview

/-- Names for values, in small letters. -/
structure NameTable where
  /-- The names and what they stand for; the first entry of a name counts. -/
  entries : List (String × Int)
  /-- A week may be counted up to its seventh day, which is Sunday again. -/
  isWeek : Bool := false
deriving DecidableEq, Repr

namespace NameTable

/-- The value of a name. -/
def find? (t : NameTable) (name : String) : Option Int :=
  t.entries.lookup name

/-- The months, by their first three letters. -/
def months : NameTable where
  entries :=
    [("jan", 1), ("feb", 2), ("mar", 3), ("apr", 4), ("may", 5), ("jun", 6),
     ("jul", 7), ("aug", 8), ("sep", 9), ("oct", 10), ("nov", 11), ("dec", 12)]

/-- The days of the week, by their first three letters. -/
def weekdays : NameTable where
  entries :=
    [("sun", 0), ("mon", 1), ("tue", 2), ("wed", 3), ("thu", 4), ("fri", 5), ("sat", 6)]
  isWeek := true

end NameTable

/-- The values that a field may take: those from `min` to `max`, some of which may have names. -/
structure Domain where
  name : String
  min : Int
  max : Int
  names : Option NameTable := none
deriving DecidableEq, Repr

namespace Domain

/-- The minutes of an hour. -/
def minute : Domain where
  name := "minute"
  min := 0
  max := 59

/-- The hours of a day. -/
def hour : Domain where
  name := "hour"
  min := 0
  max := 23

/-- The days of a month. -/
def dayOfMonth : Domain where
  name := "day_of_month"
  min := 1
  max := 31

/-- The months of a year. -/
def month : Domain where
  name := "month"
  min := 1
  max := 12
  names := some .months

/-- The days of a week, counted from Sunday. -/
def dayOfWeek : Domain where
  name := "day_of_week"
  min := 0
  max := 6
  names := some .weekdays

/-- The five domains, in the order of the fields of an expression. -/
def all : List Domain :=
  [minute, hour, dayOfMonth, month, dayOfWeek]

/-- The days of a week may be counted from one Sunday to the next: day 7 is day 0. -/
def normalize (d : Domain) (v : Int) : Int :=
  if (d.names.any fun t => t.isWeek) && v == 7 then 0 else v

/-- The values of a domain are those between its bounds. -/
def Contains (d : Domain) (v : Int) : Prop :=
  d.min ≤ v ∧ v ≤ d.max

instance (d : Domain) (v : Int) : Decidable (d.Contains v) :=
  inferInstanceAs (Decidable (_ ∧ _))

/-- Outside the days of a week every value stands for itself. -/
theorem normalize_of_names_eq_none {d : Domain} (h : d.names = none) (v : Int) :
    d.normalize v = v := by
  simp [normalize, h]

end Domain

end CronPreview
