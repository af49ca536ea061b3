/-
Days of the month and days of the week.

* `monthStart`: the first day of a month;
* `exists_long_month`: soon after any month, a month of 31 days begins on any given day of the week;
* `Date.exists_day_on_weekday`: every day of the month falls on every day of the week soon after any
  day, at most 639 days later;
* `Date.exists_next_year`: a date of every common year comes back in the next year;
* `Date.exists_weekday`: every date of a leap year falls on every day of the week in some year.
-/
import Mathlib.Data.List.GetD
import CronPreview.Proofs.Calendar.Gregorian

namespace CronPreview

/-! ### The beginnings of months -/

/-- The day number of the first day of a month, which is counted from zero. -/
def monthStart (y i : ℕ) : ℕ := daysBeforeYear y + Date.total ((monthLengths y).take i)

/-- The next month begins when all days of a month have passed. -/
lemma monthStart_succ (y i : ℕ) :
    monthStart y (i + 1) = monthStart y i + (monthLengths y).getD i 0 := by
  rw [monthStart, monthStart, Date.total_take_succ, Nat.add_assoc]

/-- A leap year begins on any given day of the week, and does so between 2000 and 2024. -/
lemma exists_leap_year (r : ℕ) :
    ∃ y, (2000 ≤ y ∧ y ≤ 2024) ∧ isLeap y = true ∧ daysBeforeYear y % 7 = r % 7 := by
  have hcycle : ∀ r < 7, ∃ k < 7, isLeap (2000 + 4 * k) = true ∧
      daysBeforeYear (2000 + 4 * k) % 7 = r := by decide
  obtain ⟨k, hk, hleap, hstart⟩ := hcycle (r % 7) (Nat.mod_lt r (by decide))
  exact ⟨2000 + 4 * k, by omega, hleap, hstart⟩

/-- Any three years in a row are of the same lengths as three years in a row of which the first one
is 2000, 2001, 2002 or 2003: at most one of them is a leap year. -/
lemma exists_like_years (y : ℕ) :
    ∃ k < 4, ∀ a < 3, isLeap (y + a) = isLeap (2000 + k + a) := by
  have hthree : ∀ {k}, isLeap y = isLeap (2000 + k) → isLeap (y + 1) = isLeap (2000 + k + 1) →
      isLeap (y + 2) = isLeap (2000 + k + 2) → ∀ a < 3, isLeap (y + a) = isLeap (2000 + k + a) := by
    intro k h₀ h₁ h₂ a ha
    interval_cases a
    · exact h₀
    · exact h₁
    · exact h₂
  have hfour : ∀ {x z}, isLeap x = true → isLeap z = true → x % 4 = z % 4 := by
    intro x z hx hz
    rw [isLeap_iff] at hx hz
    omega
  cases h₀ : isLeap y with
  | true =>
      refine ⟨0, by decide, hthree h₀ ?_ ?_⟩
      · cases h₁ : isLeap (y + 1) with
        | true => exact absurd (hfour h₀ h₁) (by omega)
        | false => decide
      · cases h₂ : isLeap (y + 2) with
        | true => exact absurd (hfour h₀ h₂) (by omega)
        | false => decide
  | false =>
      cases h₁ : isLeap (y + 1) with
      | true =>
          refine ⟨3, by decide, hthree h₀ h₁ ?_⟩
          cases h₂ : isLeap (y + 2) with
          | true => exact absurd (hfour h₁ h₂) (by omega)
          | false => decide
      | false =>
          cases h₂ : isLeap (y + 2) with
          | true => exact ⟨2, by decide, hthree h₀ h₁ h₂⟩
          | false => exact ⟨1, by decide, hthree h₀ h₁ h₂⟩

section LikeYears

variable {y z : ℕ}

/-- Years of the same lengths take the same time. -/
lemma daysBeforeYear_like (hy : 1 ≤ y) (hz : 1 ≤ z) {n : ℕ}
    (h : ∀ a < n, isLeap (y + a) = isLeap (z + a)) :
    daysBeforeYear (y + n) + daysBeforeYear z = daysBeforeYear (z + n) + daysBeforeYear y := by
  induction n with
  | zero => exact Nat.add_comm _ _
  | succ n ih =>
      have hlength : yearLength (y + n) = yearLength (z + n) := by
        rw [yearLength_eq, yearLength_eq, h n (Nat.lt_succ_self n)]
      have := ih fun a ha => h a (Nat.lt_succ_of_lt ha)
      rw [← Nat.add_assoc, ← Nat.add_assoc, daysBeforeYear_succ (by omega),
        daysBeforeYear_succ (by omega)]
      omega

/-- The months of such years are of the same lengths, and begin after the same time. -/
lemma monthStart_like (hy : 1 ≤ y) (hz : 1 ≤ z) {n : ℕ}
    (h : ∀ a < n, isLeap (y + a) = isLeap (z + a)) {a : ℕ} (ha : a < n) (i : ℕ) :
    monthLengths (y + a) = monthLengths (z + a) ∧
      monthStart (y + a) i + daysBeforeYear z = monthStart (z + a) i + daysBeforeYear y := by
  have hmonths : monthLengths (y + a) = monthLengths (z + a) := by
    rw [monthLengths, monthLengths, h a ha]
  have hyears := daysBeforeYear_like hy hz fun b hb => h b (Nat.lt_trans hb ha)
  refine ⟨hmonths, ?_⟩
  rw [monthStart, monthStart, hmonths]
  omega

end LikeYears

/-- The months of 31 days in four times three years: after each month of the first year, one of them
begins on any given day of the week. -/
lemma exists_long_month_of_2000s :
    ∀ k < 4, ∀ i < 12, ∀ r < 7, ∃ a < 3, ∃ m < 12,
      (monthLengths (2000 + k + a)).getD m 0 = 31 ∧ monthStart (2000 + k + a) m % 7 = r ∧
        monthStart (2000 + k) (i + 1) ≤ monthStart (2000 + k + a) m ∧
          monthStart (2000 + k + a) m ≤ monthStart (2000 + k) i + 609 := by
  decide +kernel

/-- **Soon after any month, a month of 31 days begins on any given day of the week.** Only the lengths
of three years matter, so it is enough to look at four years and the years after them. -/
theorem exists_long_month {y i : ℕ} (hy : 1 ≤ y) (hi : i < 12) (r : ℕ) :
    ∃ z m, y ≤ z ∧ (monthLengths z).getD m 0 = 31 ∧ monthStart z m % 7 = r % 7 ∧
      monthStart y (i + 1) ≤ monthStart z m ∧ monthStart z m ≤ monthStart y i + 609 := by
  obtain ⟨k, hk, hlike⟩ := exists_like_years y
  obtain ⟨a, ha, m, -, hlong, hweek, hafter, hsoon⟩ := exists_long_month_of_2000s k hk i hi
    ((r + daysBeforeYear (2000 + k) + 6 * daysBeforeYear y) % 7) (Nat.mod_lt _ (by decide))
  have hstart := fun {a} ha i => monthStart_like hy (z := 2000 + k) (by omega) hlike (a := a) ha i
  obtain ⟨hmonths, hm⟩ := hstart ha m
  have hthis := (hstart (a := 0) (by decide) i).2
  have hnext := (hstart (a := 0) (by decide) (i + 1)).2
  simp only [Nat.add_zero] at hthis hnext
  refine ⟨y + a, m, by omega, ?_, by omega, by omega, by omega⟩
  rw [hmonths, hlong]

/-! ### Dates on days of the week -/

namespace Date

/-- A month is at least as long as in a common year, and no longer than in a leap year. -/
lemma getD_monthLengths_bounds (y i : ℕ) :
    commonMonths.getD i 0 ≤ (monthLengths y).getD i 0 ∧
      (monthLengths y).getD i 0 ≤ leapMonths.getD i 0 := by
  have hle : commonMonths.getD i 0 ≤ leapMonths.getD i 0 := by
    by_cases hi : i < 12
    · interval_cases i <;> decide
    · rw [List.getD_eq_default _ _ (by simpa [commonMonths] using hi)]
      exact Nat.zero_le _
  rw [monthLengths]
  split
  · exact ⟨hle, Nat.le_refl _⟩
  · exact ⟨Nat.le_refl _, hle⟩

/-- **Every day of the month falls on every day of the week** at most 639 days after any day. It does
so in a month of 31 days, which begins on the right day of the week. -/
theorem exists_day_on_weekday (n : ℕ) {day w : ℕ} (h₁ : 1 ≤ day) (h₂ : day ≤ 31) (hw : w < 7) :
    ∃ k, (n < k ∧ k ≤ n + 639) ∧ (ofDay k).day = day ∧
      (1 ≤ (ofDay k).month ∧ (ofDay k).month ≤ 12) ∧ dayOfWeek k = w := by
  obtain ⟨y, i, r, hy, hi, hr, hn⟩ := exists_month n
  obtain ⟨z, m, hyz, hlong, hweek, hafter, hsoon⟩ := exists_long_month hy hi (w + 6 * day)
  have hstart : n = monthStart y i + r := hn
  have hdate : ofDay (monthStart z m + (day - 1)) = ⟨z, m + 1, day - 1 + 1⟩ :=
    ofDay_add (by omega) (by omega)
  have hm : m < 12 := by
    by_contra hm
    rw [List.getD_eq_default _ _ (by rw [length_monthLengths]; omega)] at hlong
    cases hlong
  rw [monthStart_succ] at hafter
  refine ⟨monthStart z m + (day - 1), by omega, ?_, ?_, ?_⟩
  · rw [hdate]
    exact Nat.sub_add_cancel h₁
  · rw [hdate]
    exact ⟨Nat.succ_pos m, hm⟩
  · rw [dayOfWeek]
    omega

/-- A date of a common year is a date of every year, and comes back in the next year. -/
lemma exists_next_year (n : ℕ) {month day : ℕ} (hm : 1 ≤ month) (h₁ : 1 ≤ day)
    (h₂ : day ≤ commonMonths.getD (month - 1) 0) :
    ∃ k, (n < k ∧ k ≤ n + 731) ∧ (ofDay k).month = month ∧ (ofDay k).day = day := by
  obtain ⟨y, r, hy, hr, hn⟩ := exists_year n
  have hin : day - 1 < (monthLengths (y + 1)).getD (month - 1) 0 := by
    have := (getD_monthLengths_bounds (y + 1) (month - 1)).1
    omega
  have hyear : yearLength y ≤ 366 ∧ yearLength (y + 1) ≤ 366 := by
    rw [yearLength_eq, yearLength_eq]
    constructor
    · split <;> decide
    · split <;> decide
  have hend : Date.total ((monthLengths (y + 1)).take (month - 1)) + (day - 1)
      < yearLength (y + 1) := total_take_add_lt hin
  have hdate := ofDay_add (y := y + 1) (by omega) hin
  have hnext := daysBeforeYear_succ hy
  refine ⟨daysBeforeYear (y + 1) + total ((monthLengths (y + 1)).take (month - 1)) + (day - 1),
    ⟨by omega, by omega⟩, ?_, ?_⟩
  · rw [hdate]
    exact Nat.sub_add_cancel hm
  · rw [hdate]
    exact Nat.sub_add_cancel h₁

/-- **Every date falls on every day of the week** in a year between 2000 and 2024. It does so in a
leap year, which has all dates, and begins on the right day of the week. -/
theorem exists_weekday {year month day w : ℕ} (h : (⟨year, month, day⟩ : Date).IsValid)
    (hw : w < 7) :
    ∃ y, (2000 ≤ y ∧ y ≤ 2024) ∧ (⟨y, month, day⟩ : Date).IsValid ∧
      dayOfWeek (toDay ⟨y, month, day⟩) = w := by
  obtain ⟨-, hm, h₁, h₂⟩ := h
  simp only at hm h₁ h₂
  obtain ⟨y, hy, hleap, hstart⟩ :=
    exists_leap_year (w + 6 * (total (leapMonths.take (month - 1)) + day))
  have hmonths : monthLengths y = leapMonths := by rw [monthLengths, if_pos hleap]
  have hcalendar : 1 ≤ y ∧ y ≤ 9999 := by omega
  refine ⟨y, hy, ⟨hcalendar, hm, h₁, ?_⟩, ?_⟩
  · rw [hmonths]
    exact Nat.le_trans h₂ (getD_monthLengths_bounds year (month - 1)).2
  · rw [dayOfWeek, toDay, hmonths]
    simp only
    omega

end Date

end CronPreview
