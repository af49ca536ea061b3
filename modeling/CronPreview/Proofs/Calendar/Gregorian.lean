/-
The Gregorian calendar: day numbers and dates are the same days.

* `Date.ofDay_toDay`, `Date.toDay_ofDay`: the date of a day number and the day number of a date
  undo each other, in all years from the first one on;
* `Date.isValid_ofDay`, `Date.toDay_lt`: the days of the calendar are those with a number below
  `calendarDays`;
* `Date.next`, `Date.ofDay_succ`: the day after a day is the next one of its month, or the first one
  of the next month or year.
-/
import Mathlib.Tactic
import CronPreview.Calendar.Date

namespace CronPreview

/-- The number of days in the calendar. -/
def calendarDays : ℕ := 3652059

/-- The number of days in a year. -/
def yearLength (year : ℕ) : ℕ := Date.total (monthLengths year)

/-! ### Stretches that follow each other -/

namespace Date

lemma total_take_succ (ls : List ℕ) (i : ℕ) :
    total (ls.take (i + 1)) = total (ls.take i) + ls.getD i 0 := by
  induction ls generalizing i with
  | nil => simp [total]
  | cons l ls ih =>
      cases i with
      | zero => simp [total]
      | succ i =>
          simp only [List.take_succ_cons, total, List.getD_cons_succ]
          rw [ih i, Nat.add_assoc]

/-- A place in one of the stretches lies before the end of them all. -/
lemma total_take_add_lt {ls : List ℕ} {i r : ℕ} (h : r < ls.getD i 0) :
    total (ls.take i) + r < total ls := by
  induction ls generalizing i with
  | nil => simp at h
  | cons l ls ih =>
      cases i with
      | zero =>
          simp only [List.getD_cons_zero] at h
          simp only [List.take_zero, total]
          omega
      | succ i =>
          have := ih (by simpa using h)
          simp only [List.take_succ_cons, total]
          omega

/-- The place `r` of the `i`-th stretch is found there. -/
lemma locate_total_take {ls : List ℕ} {i r : ℕ} (h : r < ls.getD i 0) :
    locate ls (total (ls.take i) + r) = (i, r) := by
  induction ls generalizing i with
  | nil => simp at h
  | cons l ls ih =>
      cases i with
      | zero =>
          have hr : r < l := by simpa using h
          simp [locate, total, hr]
      | succ i =>
          have hge : ¬ l + total (ls.take i) + r < l := by omega
          have hsub : l + total (ls.take i) + r - l = total (ls.take i) + r := by omega
          simp only [List.take_succ_cons, total]
          rw [locate, if_neg hge, hsub, ih (by simpa using h)]

/-- Every place before the end lies in one of the stretches. -/
lemma exists_stretch {ls : List ℕ} {n : ℕ} (h : n < total ls) :
    ∃ i r, r < ls.getD i 0 ∧ n = total (ls.take i) + r := by
  induction ls generalizing n with
  | nil => simp [total] at h
  | cons l ls ih =>
      by_cases hl : n < l
      · exact ⟨0, n, by simpa using hl, by simp [total]⟩
      · rw [total] at h
        obtain ⟨i, r, hr, hn⟩ := ih (n := n - l) (by omega)
        refine ⟨i + 1, r, by simpa using hr, ?_⟩
        simp only [List.take_succ_cons, total]
        omega

end Date

/-! ### Years -/

lemma yearLength_eq (y : ℕ) : yearLength y = if isLeap y then 366 else 365 := by
  rw [yearLength, monthLengths]
  split <;> rfl

lemma isLeap_iff {y : ℕ} : isLeap y = true ↔ y % 4 = 0 ∧ (y % 100 ≠ 0 ∨ y % 400 = 0) := by
  simp [isLeap]

/-- The next year begins when all days of a year have passed. -/
lemma daysBeforeYear_succ {y : ℕ} (hy : 1 ≤ y) :
    daysBeforeYear (y + 1) = daysBeforeYear y + yearLength y := by
  obtain ⟨x, rfl⟩ : ∃ x, y = x + 1 := ⟨y - 1, by omega⟩
  have h4 : (x + 1) / 4 = x / 4 + if (x + 1) % 4 = 0 then 1 else 0 := by split <;> omega
  have h100 : (x + 1) / 100 = x / 100 + if (x + 1) % 100 = 0 then 1 else 0 := by split <;> omega
  have h400 : (x + 1) / 400 = x / 400 + if (x + 1) % 400 = 0 then 1 else 0 := by split <;> omega
  have hle : x / 100 ≤ x / 4 := Nat.div_le_div_left (by decide) (by decide)
  simp only [daysBeforeYear, Nat.add_sub_cancel, h4, h100, h400, yearLength_eq, isLeap_iff]
  by_cases c4 : (x + 1) % 4 = 0
  · by_cases c100 : (x + 1) % 100 = 0
    · by_cases c400 : (x + 1) % 400 = 0
      · simp only [c4, c100, c400, if_true, or_true, and_self]
        omega
      · simp only [c4, c100, c400, if_true, if_false, ne_eq, not_true_eq_false, or_self, and_false]
        omega
    · have c400 : (x + 1) % 400 ≠ 0 := by omega
      simp only [c4, c100, c400, if_true, if_false, ne_eq, not_false_eq_true, true_or, and_self]
      omega
  · have c100 : (x + 1) % 100 ≠ 0 := by omega
    have c400 : (x + 1) % 400 ≠ 0 := by omega
    simp only [c4, c100, c400, if_false, false_and]
    omega

lemma daysBeforeYear_mono {y z : ℕ} (hy : 1 ≤ y) (hyz : y ≤ z) :
    daysBeforeYear y ≤ daysBeforeYear z := by
  induction z, hyz using Nat.le_induction with
  | base => exact Nat.le_refl _
  | succ z hz ih =>
      rw [daysBeforeYear_succ (by omega)]
      omega

/-- Every day lies in a year. -/
lemma exists_year (n : ℕ) : ∃ y r, 1 ≤ y ∧ r < yearLength y ∧ n = daysBeforeYear y + r := by
  induction n with
  | zero => exact ⟨1, 0, by decide, by decide, by decide⟩
  | succ n ih =>
      obtain ⟨y, r, hy, hr, hn⟩ := ih
      by_cases hnext : r + 1 < yearLength y
      · exact ⟨y, r + 1, hy, hnext, by omega⟩
      · refine ⟨y + 1, 0, by omega, ?_, ?_⟩
        · rw [yearLength_eq]
          split <;> decide
        · rw [daysBeforeYear_succ hy]
          omega

/-- A day of a year is found in that year. The quotients of its number are the centuries, the leap
cycles and the years before it; the last day of a leap year is the only one that would be counted
into a fifth century or year, and there the quotients are cut off at three. -/
lemma yearOfDay_add {y r : ℕ} (hy : 1 ≤ y) (hr : r < yearLength y) :
    Date.yearOfDay (daysBeforeYear y + r) = (y, r) := by
  obtain ⟨a, b, c, e, hb, hc, he, hyear⟩ :
      ∃ a b c e, b < 4 ∧ c < 25 ∧ e < 4 ∧ y = 400 * a + 100 * b + 4 * c + e + 1 :=
    ⟨(y - 1) / 400, (y - 1) % 400 / 100, (y - 1) % 100 / 4, (y - 1) % 4, by omega, by omega,
      by omega, by omega⟩
  have hleap : r < 365 ∨ r = 365 ∧ e = 3 ∧ (c < 24 ∨ b = 3) := by
    rw [yearLength_eq] at hr
    split at hr
    · next h =>
        rw [isLeap_iff] at h
        omega
    · omega
  have hbefore : daysBeforeYear y = 146097 * a + 36524 * b + 1461 * c + 365 * e := by
    simp only [daysBeforeYear]
    omega
  generalize hn : daysBeforeYear y + r = n
  have h400 : n % 146097 = 36524 * b + 1461 * c + 365 * e + r := by omega
  have hcenturies : min 3 (n % 146097 / 36524) = b := by omega
  have h100 : n % 146097 - b * 36524 = 1461 * c + 365 * e + r := by omega
  have h4 : (1461 * c + 365 * e + r) % 1461 = 365 * e + r := by omega
  have hyears : min 3 ((365 * e + r) / 365) = e := by omega
  simp only [Date.yearOfDay, hcenturies, h100, h4, hyears, Prod.mk.injEq]
  constructor
  · omega
  · omega

/-! ### Dates and their day numbers -/

namespace Date

/-- The day that follows a date. -/
def next (d : Date) : Date :=
  if d.day < (monthLengths d.year).getD (d.month - 1) 0 then ⟨d.year, d.month, d.day + 1⟩
  else if d.month < 12 then ⟨d.year, d.month + 1, 1⟩
  else ⟨d.year + 1, 1, 1⟩

lemma length_monthLengths (y : ℕ) : (monthLengths y).length = 12 := by
  rw [monthLengths]
  split <;> rfl

/-- No month is empty. -/
lemma getD_monthLengths_pos (y : ℕ) {i : ℕ} (hi : i < 12) : 0 < (monthLengths y).getD i 0 := by
  rw [monthLengths]
  split <;> interval_cases i <;> decide

/-- The date of a day in a month of a year. -/
lemma ofDay_add {y i r : ℕ} (hy : 1 ≤ y) (hr : r < (monthLengths y).getD i 0) :
    ofDay (daysBeforeYear y + total ((monthLengths y).take i) + r) = ⟨y, i + 1, r + 1⟩ := by
  have h := total_take_add_lt hr
  rw [Nat.add_assoc]
  simp only [ofDay, yearOfDay_add hy h, locate_total_take hr]

/-- Every day is one of a month of a year. -/
lemma exists_month (n : ℕ) :
    ∃ y i r, 1 ≤ y ∧ i < 12 ∧ r < (monthLengths y).getD i 0 ∧
      n = daysBeforeYear y + total ((monthLengths y).take i) + r := by
  obtain ⟨y, q, hy, hq, hn⟩ := exists_year n
  obtain ⟨i, r, hr, hqr⟩ := exists_stretch hq
  refine ⟨y, i, r, hy, ?_, hr, by omega⟩
  by_contra hi
  have hlen : (monthLengths y).length ≤ i := by
    rw [length_monthLengths]
    omega
  rw [List.getD_eq_getElem?_getD, List.getElem?_eq_none hlen] at hr
  simp at hr

/-- **A date is the date of its day number**, in every year from the first one on. -/
theorem ofDay_toDay {d : Date} (hy : 1 ≤ d.year) (hm : 1 ≤ d.month) (hd : 1 ≤ d.day)
    (hl : d.day ≤ (monthLengths d.year).getD (d.month - 1) 0) : ofDay d.toDay = d := by
  rw [toDay, ofDay_add hy (by omega)]
  obtain ⟨y, m, k⟩ := d
  simp only [Date.mk.injEq, true_and] at *
  omega

/-- **A day number is the number of its date.** -/
theorem toDay_ofDay (n : ℕ) : (ofDay n).toDay = n := by
  obtain ⟨y, i, r, hy, -, hr, rfl⟩ := exists_month n
  rw [ofDay_add hy hr]
  rfl

/-- The date of a day of the calendar is a date of the calendar. -/
theorem isValid_ofDay {n : ℕ} (h : n < calendarDays) : (ofDay n).IsValid := by
  obtain ⟨y, i, r, hy, -, hr, rfl⟩ := exists_month n
  rw [ofDay_add hy hr]
  have hlast : y ≤ 9999 := by
    by_contra hlate
    have := daysBeforeYear_mono (y := 10000) (z := y) (by decide) (by omega)
    have hend : daysBeforeYear 10000 = calendarDays := by decide
    omega
  refine ⟨⟨hy, hlast⟩, by simp, by simp, ?_⟩
  simpa using hr

/-- A date of the calendar is the date of a day of the calendar. -/
theorem toDay_lt {d : Date} (h : d.IsValid) : d.toDay < calendarDays := by
  obtain ⟨⟨hy, hlast⟩, hm, hd, hl⟩ := h
  have hr : d.day - 1 < (monthLengths d.year).getD (d.month - 1) 0 := by omega
  have hyear := total_take_add_lt hr
  have hnext := daysBeforeYear_succ hy
  have hend : daysBeforeYear 10000 = calendarDays := by decide
  have hmono := daysBeforeYear_mono (y := d.year + 1) (z := 10000) (by omega) (by omega)
  rw [yearLength] at hnext
  rw [toDay]
  omega

/-- **The day after a day**: the calendar goes on to the next day of the month, or to the first day
of the next month or year. -/
theorem ofDay_succ (n : ℕ) : ofDay (n + 1) = (ofDay n).next := by
  obtain ⟨y, i, r, hy, hi, hr, rfl⟩ := exists_month n
  rw [ofDay_add hy hr, next]
  by_cases hday : r + 1 < (monthLengths y).getD i 0
  · rw [if_pos (by simpa using hday), Nat.add_assoc, ofDay_add hy hday]
  · have hlast : r + 1 = (monthLengths y).getD i 0 := by omega
    rw [if_neg (by simpa using hday)]
    have hmonth : daysBeforeYear y + total ((monthLengths y).take i) + r + 1
        = daysBeforeYear y + total ((monthLengths y).take (i + 1)) + 0 := by
      rw [total_take_succ]
      omega
    rw [hmonth]
    by_cases hdec : i + 1 < 12
    · rw [if_pos hdec, ofDay_add hy (getD_monthLengths_pos y hdec)]
    · have hall : daysBeforeYear y + total ((monthLengths y).take (i + 1)) + 0
          = daysBeforeYear (y + 1) + total ((monthLengths (y + 1)).take 0) + 0 := by
        rw [daysBeforeYear_succ hy, yearLength,
          List.take_of_length_le (by rw [length_monthLengths]; omega)]
        rfl
      rw [if_neg hdec, hall, ofDay_add (by omega) (getD_monthLengths_pos _ (by decide))]

end Date

end CronPreview
