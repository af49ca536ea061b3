/-
What a wall clock with a calendar shows, and how it goes on from minute to minute.

* `Face`: the date, the day of the week, the hour and the minute;
* `Face.next`: the face a minute later, with every roll-over from the minute to the year;
* `faceAt_succ`: the face of the minute after a minute is the next face;
* `minuteNumber_faceAt`: a whole minute is determined by its face;
* `lastMinute`: the last whole minute of the calendar;
* `Instant.face_roundUp`, `Instant.roundUp_eq_none_iff`: rounding up goes on to the next face, on the
  same clock, and fails at the last minute only.
-/
import CronPreview.Calendar.Instant
import CronPreview.Proofs.Calendar.Gregorian

namespace CronPreview

/-- What a wall clock with a calendar shows in a whole minute. -/
structure Face where
  date : Date
  /-- The day of the week, counted from Sunday. -/
  weekday : ℕ
  hour : ℕ
  minute : ℕ
deriving DecidableEq

namespace Face

/-- The face a minute later: the minutes roll over into the hours, the hours into the days, and the
days into the months, the years and the week. -/
def next (f : Face) : Face :=
  if f.minute < 59 then { f with minute := f.minute + 1 }
  else if f.hour < 23 then { f with hour := f.hour + 1, minute := 0 }
  else ⟨f.date.next, (f.weekday + 1) % 7, 0, 0⟩

end Face

/-- The face of the `m`-th whole minute. -/
def faceAt (m : ℕ) : Face :=
  ⟨.ofDay (dayOf m), dayOfWeek (dayOf m), hourOfDay m, minuteOfHour m⟩

/-- The last whole minute of the calendar. -/
def lastMinute : ℕ := Instant.minuteNumber ⟨9999, 12, 31⟩ 23 59

lemma lastMinute_succ : lastMinute + 1 = calendarMinutes := by decide

/-- The calendar consists of whole days. -/
lemma calendarMinutes_eq : calendarMinutes = calendarDays * 1440 := by decide

lemma dayOf_lt {m : ℕ} (h : m < calendarMinutes) : dayOf m < calendarDays := by
  rw [calendarMinutes_eq] at h
  rw [dayOf, minutesPerDay]
  omega

/-- **The clock goes on**: the face of the next minute is the next face. -/
theorem faceAt_succ (m : ℕ) : faceAt (m + 1) = (faceAt m).next := by
  by_cases hminute : (faceAt m).minute < 59
  · rw [Face.next, if_pos hminute]
    simp only [faceAt, minuteOfHour, hourOfDay, dayOf, minutesPerDay, Face.mk.injEq] at *
    have hday : (m + 1) / 1440 = m / 1440 := by omega
    rw [hday]
    refine ⟨rfl, rfl, by omega, by omega⟩
  · by_cases hhour : (faceAt m).hour < 23
    · rw [Face.next, if_neg hminute, if_pos hhour]
      simp only [faceAt, minuteOfHour, hourOfDay, dayOf, minutesPerDay, Face.mk.injEq] at *
      have hday : (m + 1) / 1440 = m / 1440 := by omega
      rw [hday]
      refine ⟨rfl, rfl, by omega, by omega⟩
    · rw [Face.next, if_neg hminute, if_neg hhour]
      simp only [faceAt, minuteOfHour, hourOfDay, dayOf, minutesPerDay, Face.mk.injEq] at *
      have hday : (m + 1) / 1440 = m / 1440 + 1 := by omega
      have hweek : dayOfWeek (m / 1440 + 1) = (dayOfWeek (m / 1440) + 1) % 7 := by
        rw [dayOfWeek, dayOfWeek]
        omega
      rw [hday, Date.ofDay_succ]
      refine ⟨rfl, hweek, by omega, by omega⟩

/-- A whole minute is determined by the date, the hour and the minute of its face. -/
theorem minuteNumber_faceAt (m : ℕ) :
    Instant.minuteNumber (faceAt m).date (faceAt m).hour (faceAt m).minute = m := by
  simp only [Instant.minuteNumber, faceAt, Date.toDay_ofDay, dayOf, hourOfDay, minuteOfHour,
    minutesPerDay]
  omega

namespace Instant

/-- What the clock shows at an instant. -/
def face (t : Instant) : Face := faceAt t.minute

/-- The date that a clock shows is a date of the calendar. -/
lemma isValid_date (t : Instant) : t.date.IsValid := Date.isValid_ofDay (dayOf_lt t.minute_lt)

lemma hourOfDay_lt (t : Instant) : t.hourOfDay < 24 := Nat.mod_lt _ (by decide)

lemma minuteOfHour_lt (t : Instant) : t.minuteOfHour < 60 := Nat.mod_lt _ (by decide)

lemma dayOfWeek_lt (t : Instant) : t.dayOfWeek < 7 := Nat.mod_lt _ (by decide)

/-- Every whole minute of the calendar is the minute of an instant. -/
lemma exists_minute {m : ℕ} (h : m < calendarMinutes) : ∃ t : Instant, t.minute = m :=
  ⟨{ minute := m, minute_lt := h }, rfl⟩

/-- The last minute is the last one that an instant can be in. -/
lemma minute_le_lastMinute (t : Instant) : t.minute ≤ lastMinute := by
  have := t.minute_lt
  have := lastMinute_succ
  omega

lemma atMinute?_eq_none_iff {t : Instant} {m : ℕ} : t.atMinute? m = none ↔ lastMinute < m := by
  have := lastMinute_succ
  rw [atMinute?]
  split
  · next h =>
      simp only [reduceCtorEq, false_iff]
      omega
  · next h =>
      simp only [true_iff]
      omega

/-- There is no next whole minute after the last one, and only after that one. -/
theorem roundUp_eq_none_iff {t : Instant} : t.roundUp = none ↔ t.minute = lastMinute := by
  have := t.minute_le_lastMinute
  rw [roundUp, atMinute?_eq_none_iff]
  omega

/-- The next whole minute has the next face on the same clock, and is at its very beginning. -/
theorem face_roundUp {t u : Instant} (h : t.roundUp = some u) :
    u.face = t.face.next ∧ u.second = 0 ∧ u.microsecond = 0 ∧ u.zone = t.zone := by
  rw [roundUp, atMinute?_eq_some_iff] at h
  obtain ⟨hminute, hrest⟩ := h
  refine ⟨?_, hrest⟩
  rw [face, hminute, faceAt_succ, face]

end Instant

end CronPreview
