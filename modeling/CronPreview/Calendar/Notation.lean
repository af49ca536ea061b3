/-
How instants are written.

* `Instant.iso`: date and time with a `T` between them, and the distance from UTC if it is known;
* `Instant.spaced`: the same with a space in place of the `T`;
* `readDate?`, `readDigits?`, `readChar?`: the parts from which readers of instants are made.
-/
import CronPreview.Calendar.Instant
import CronPreview.Text.Numeral

namespace CronPreview

/-! ### Writing -/

/-- Hours and minutes with a colon between them, two digits each. -/
def writeClock (hour minute : Nat) : List Char :=
  Numeral.padded 2 hour ++ ':' :: Numeral.padded 2 minute

/-- A distance from UTC: a sign, hours and minutes, and the seconds if there are any. -/
def writeOffset (offset : Int) : List Char :=
  let n := offset.natAbs
  (if offset < 0 then '-' else '+') :: writeClock (n / 3600) (n / 60 % 60)
    ++ if n % 60 = 0 then [] else ':' :: Numeral.padded 2 (n % 60)

namespace Date

/-- A date with hyphens: four digits of the year and two of the month and the day. -/
def write (d : Date) : List Char :=
  Numeral.padded 4 d.year ++ '-' :: Numeral.padded 2 d.month ++ '-' :: Numeral.padded 2 d.day

end Date

namespace Instant

/-- The date and the time of day of an instant with `separator` between them; the microseconds are
written if there are any, and the distance from UTC if it is known. -/
def write (separator : Char) (t : Instant) : List Char :=
  t.date.write ++ separator :: writeClock t.hourOfDay t.minuteOfHour
    ++ ':' :: Numeral.padded 2 t.second
    ++ (if t.microsecond = 0 then [] else '.' :: Numeral.padded 6 t.microsecond)
    ++ match t.zone with
      | some z => writeOffset z.offset
      | none => []

/-- The notation of an instant in messages between programs. -/
def iso (t : Instant) : String :=
  String.ofList (t.write 'T')

/-- The notation of an instant in the journal. -/
def spaced (t : Instant) : String :=
  String.ofList (t.write ' ')

end Instant

/-! ### Reading -/

/-- The number written with the first `n` characters, which must be digits, and the text after. -/
def readDigits? (n : Nat) (cs : List Char) : Option (Nat × List Char) :=
  let ds := cs.take n
  if ds.length = n ∧ ds.all Char.isDigit then some (Numeral.value ds, cs.drop n) else none

/-- The text after its first character, which must be `c`. -/
def readChar? (c : Char) : List Char → Option (List Char)
  | x :: cs => if x = c then some cs else none
  | [] => none

/-- A date with hyphens, and the text after it. -/
def readDate? (cs : List Char) : Option (Date × List Char) := do
  let (year, cs) ← readDigits? 4 cs
  let cs ← readChar? '-' cs
  let (month, cs) ← readDigits? 2 cs
  let cs ← readChar? '-' cs
  let (day, cs) ← readDigits? 2 cs
  return (⟨year, month, day⟩, cs)

/-- Hours and minutes with a colon between them, and the text after them. -/
def readClock? (cs : List Char) : Option ((Nat × Nat) × List Char) := do
  let (hour, cs) ← readDigits? 2 cs
  let cs ← readChar? ':' cs
  let (minute, cs) ← readDigits? 2 cs
  return ((hour, minute), cs)

/-- The microseconds of a fraction of a second, of which only six digits count; there is at least
one digit after a point. -/
def readFraction? : List Char → Option (Nat × List Char)
  | '.' :: cs =>
    let ds := cs.takeWhile Char.isDigit
    if ds = [] then none
    else
      let six := ds.take 6 ++ List.replicate (6 - ds.length) '0'
      some (Numeral.value six, cs.dropWhile Char.isDigit)
  | cs => some (0, cs)

end CronPreview
