/-
Instants are read back from their notation.

* `readDigits?_padded`: a numeral of a fixed width is read back, whatever comes after it;
* `readDate?_write`, `readClock?_writeClock`, `readFraction?_write`: so are dates, times of day, and
  microseconds;
* `Instant.of?_fields`: an instant is determined by what its clock shows.
-/
import Mathlib.Data.List.GetD
import CronPreview.Calendar.Notation
import CronPreview.Proofs.Calendar.Clock
import CronPreview.Proofs.Text.Numeral

namespace CronPreview

variable {n width : ℕ} {rest : List Char}

/-! ### Numerals -/

/-- A numeral of a fixed width is read back. -/
theorem readDigits?_padded (h : n < 10 ^ width) (hwidth : 0 < width) (rest : List Char) :
    readDigits? width (Numeral.padded width n ++ rest) = some (n, rest) := by
  have hlength := Numeral.length_padded h hwidth
  have htake : (Numeral.padded width n ++ rest).take width = Numeral.padded width n :=
    List.take_left' hlength
  have hdrop : (Numeral.padded width n ++ rest).drop width = rest := List.drop_left' hlength
  have hdigits : (Numeral.padded width n).all Char.isDigit = true :=
    List.all_eq_true.mpr fun _ => Numeral.isDigit_of_mem_padded
  rw [readDigits?]
  simp only [htake, hdrop, hlength, hdigits, Numeral.value_padded, and_self, if_true]

lemma readChar?_cons (c : Char) (cs : List Char) : readChar? c (c :: cs) = some cs :=
  if_pos rfl

/-! ### Dates and times of day -/

/-- The parts of a date take four, two and two digits. -/
lemma Date.IsValid.lt {d : Date} (h : d.IsValid) : d.year < 10000 ∧ d.month < 100 ∧ d.day < 100 := by
  obtain ⟨⟨-, hyear⟩, -, hday, hlast⟩ := h
  have hmonth : d.month - 1 < 12 := by
    by_contra hout
    rw [List.getD_eq_default _ _ (by rw [length_monthLengths]; omega)] at hlast
    omega
  have hlength : ∀ l ∈ monthLengths d.year, l < 100 := by
    rw [monthLengths]
    split <;> decide
  have hindex : d.month - 1 < (monthLengths d.year).length := by rwa [length_monthLengths]
  rw [List.getD_eq_getElem _ _ hindex] at hlast
  have := hlength _ (List.getElem_mem hindex)
  exact ⟨by omega, by omega, by omega⟩

/-- A date is read back. -/
theorem readDate?_write {d : Date} (h : d.IsValid) (rest : List Char) :
    readDate? (d.write ++ rest) = some (d, rest) := by
  obtain ⟨hyear, hmonth, hday⟩ := h.lt
  rw [readDate?, Date.write, List.append_assoc, List.cons_append, List.append_assoc, List.cons_append,
    readDigits?_padded hyear (by decide)]
  simp only [Option.bind_eq_bind, Option.bind_some, readChar?_cons]
  rw [readDigits?_padded hmonth (by decide)]
  simp only [Option.bind_some, readChar?_cons]
  rw [readDigits?_padded hday (by decide)]
  rfl

/-- A time of day is read back. -/
theorem readClock?_writeClock {hour minute : ℕ} (hhour : hour < 100) (hminute : minute < 100)
    (rest : List Char) :
    readClock? (writeClock hour minute ++ rest) = some ((hour, minute), rest) := by
  rw [readClock?, writeClock, List.append_assoc, List.cons_append, readDigits?_padded hhour (by decide)]
  simp only [Option.bind_eq_bind, Option.bind_some, readChar?_cons]
  rw [readDigits?_padded hminute (by decide)]
  rfl

/-- What comes after a fraction does not go on with it. -/
def EndsFraction (rest : List Char) : Prop :=
  ∀ c ∈ rest.head?, c ≠ '.' ∧ c ≠ ',' ∧ c.isDigit = false

/-- The microseconds are read back, also when there are none. -/
theorem readFraction?_write {microsecond : ℕ} (h : microsecond < 1000000) (hrest : EndsFraction rest) :
    readFraction? ((if microsecond = 0 then [] else '.' :: Numeral.padded 6 microsecond) ++ rest) =
      some (microsecond, rest) := by
  -- all digits after the point are taken, so the text after them must not begin with one
  have hend : rest.takeWhile Char.isDigit = [] ∧ rest.dropWhile Char.isDigit = rest := by
    cases rest with
    | nil => exact ⟨rfl, rfl⟩
    | cons c cs => simp [(hrest c rfl).2.2]
  split_ifs with hzero
  · subst hzero
    cases rest with
    | nil => rfl
    | cons c cs =>
        rw [List.nil_append, readFraction?]
        exact fun _ hc => (hrest c rfl).1 (List.cons.inj hc).1
  · have hdigits : ∀ c ∈ Numeral.padded 6 microsecond, c.isDigit = true :=
      fun _ => Numeral.isDigit_of_mem_padded
    have hlength : (Numeral.padded 6 microsecond).length = 6 := Numeral.length_padded h (by decide)
    have hne : Numeral.padded 6 microsecond ≠ [] := by
      intro hnil
      rw [hnil] at hlength
      cases hlength
    rw [List.cons_append, readFraction?]
    simp only [List.takeWhile_append_of_pos hdigits, List.dropWhile_append_of_pos hdigits, hend.1, hend.2,
      List.append_nil, if_neg hne]
    rw [List.take_of_length_le (by omega), hlength]
    simp [Numeral.value_padded]

/-! ### Instants -/

/-- An instant is determined by what its clock shows. -/
theorem Instant.of?_fields (t : Instant) (zone : Option Zone) :
    Instant.of? t.date t.hourOfDay t.minuteOfHour t.second t.microsecond zone =
      some { t with zone := zone } := by
  have hminute : minuteNumber t.date t.hourOfDay t.minuteOfHour = t.minute := minuteNumber_faceAt t.minute
  have hlast : minuteNumber t.date t.hourOfDay t.minuteOfHour < calendarMinutes := hminute ▸ t.minute_lt
  rw [of?, dif_pos ⟨t.isValid_date, t.hourOfDay_lt, t.minuteOfHour_lt, t.second_lt, t.microsecond_lt, hlast⟩]
  simp only [hminute]

end CronPreview
