/-
Schedules that fire at the same instants.

* `Date.IsReal`: a month has a day in some year, so that 29 February counts;
* `Instant.exists_showing`: every time of every real date falls on every day of the week at some instant;
* `Schedule.firesWithin_iff`: when a schedule fires only at instants at which another one does: either it has
  no real date, or its sets are parts of the other's, and so are its real dates;
* `Cron.matches_iff_same_dates`: two expressions fire at the same instants exactly when they have the same
  times, days of the week and real dates, unless neither of them has a real date.
-/
import CronPreview.Proofs.Schedule.Horizon

namespace CronPreview

/-! ### Real dates -/

namespace Date

/-- The month has the day in some year. -/
def IsReal (month day : ℕ) : Prop := ∃ year, (⟨year, month, day⟩ : Date).IsValid

lemma IsValid.isReal {d : Date} (h : d.IsValid) : IsReal d.month d.day := ⟨d.year, h⟩

lemma isReal_iff {month day : ℕ} :
    IsReal month day ↔ 1 ≤ month ∧ 1 ≤ day ∧ day ≤ leapMonths.getD (month - 1) 0 := by
  constructor
  · rintro ⟨year, -, hm, h₁, h₂⟩
    exact ⟨hm, h₁, Nat.le_trans h₂ (getD_monthLengths_bounds year (month - 1)).2⟩
  · rintro ⟨hm, h₁, h₂⟩
    have hmonths : monthLengths 2000 = leapMonths := by decide
    refine ⟨2000, ⟨Nat.succ_pos 1999, by simp⟩, hm, h₁, ?_⟩
    rw [hmonths]
    exact h₂

/-- The first 28 days are days of every month. -/
lemma isReal_of_le {month day : ℕ} (hm : 1 ≤ month ∧ month ≤ 12) (hd : 1 ≤ day ∧ day ≤ 28) :
    IsReal month day := by
  have hlength : 28 ≤ leapMonths.getD (month - 1) 0 := by
    obtain ⟨h₁, h₁₂⟩ := hm
    interval_cases month <;> decide
  exact isReal_iff.mpr ⟨hm.1, hd.1, Nat.le_trans hd.2 hlength⟩

end Date

/-! ### Instants that show given values -/

namespace Instant

/-- The clock shows these values at the instant. -/
structure Shows (t : Instant) (minute hour day month weekday : ℕ) : Prop where
  minute : t.minuteOfHour = minute
  hour : t.hourOfDay = hour
  day : t.date.day = day
  month : t.date.month = month
  weekday : t.dayOfWeek = weekday

/-- **Every time of every real date falls on every day of the week** at some instant. -/
theorem exists_showing {minute hour day month weekday : ℕ} (hminute : minute < 60)
    (hhour : hour < 24) (hdate : Date.IsReal month day) (hweekday : weekday < 7) :
    ∃ t : Instant, t.Shows minute hour day month weekday := by
  obtain ⟨year, hyear⟩ := hdate
  obtain ⟨y, -, hy, hweek⟩ := Date.exists_weekday hyear hweekday
  have hofDay : Date.ofDay (Date.toDay ⟨y, month, day⟩) = ⟨y, month, day⟩ :=
    Date.ofDay_toDay hy.1.1 hy.2.1 hy.2.2.1 hy.2.2.2
  have hlast := Date.toDay_lt hy
  have hminutes := calendarMinutes_eq
  generalize Date.toDay ⟨y, month, day⟩ = n at hweek hofDay hlast
  obtain ⟨t, ht⟩ := exists_minute (m := n * 1440 + hour * 60 + minute) (by omega)
  have hday : dayOf t.minute = n := by
    rw [ht, dayOf, minutesPerDay]
    omega
  refine ⟨t, ?_, ?_, ?_, ?_, ?_⟩
  · rw [minuteOfHour, CronPreview.minuteOfHour, ht]
    omega
  · rw [hourOfDay, CronPreview.hourOfDay, ht]
    omega
  · rw [date, hday, hofDay]
  · rw [date, hday, hofDay]
  · rw [dayOfWeek, hday, hweek]

/-- What a clock shows is the time of a real date. -/
lemma isReal_date (t : Instant) : Date.IsReal t.date.month t.date.day :=
  t.isValid_date.isReal

end Instant

/-! ### One schedule within another -/

namespace Schedule

/-- The month and the day are values of the schedule, and they are a real date. -/
def HasRealDate (s : Schedule) (month day : ℕ) : Prop :=
  (month : ℤ) ∈ s.month ∧ (day : ℤ) ∈ s.dayOfMonth ∧ Date.IsReal month day

/-- The other schedule fires whenever this one does. -/
def FiresWithin (s s' : Schedule) : Prop :=
  ∀ t : Instant, s.matchesInstant t = true → s'.matchesInstant t = true

/-- The times, the days of the week and the real dates of the schedule are such of the other one. -/
structure IsPart (s s' : Schedule) : Prop where
  minute : ∀ v ∈ s.minute, v ∈ s'.minute
  hour : ∀ v ∈ s.hour, v ∈ s'.hour
  weekday : ∀ v ∈ s.dayOfWeek, v ∈ s'.dayOfWeek
  date : ∀ month day, s.HasRealDate month day → s'.HasRealDate month day

variable {s s' : Schedule} {t : Instant} {minute hour day month weekday : ℕ}

/-- A schedule fires when the values that the clock shows are its own. -/
lemma matchesInstant_iff (h : t.Shows minute hour day month weekday) :
    s.matchesInstant t = true ↔
      (minute : ℤ) ∈ s.minute ∧ (hour : ℤ) ∈ s.hour ∧ s.HasRealDate month day ∧
        (weekday : ℤ) ∈ s.dayOfWeek := by
  have hreal := t.isReal_date
  obtain ⟨rfl, rfl, rfl, rfl, rfl⟩ := h
  rw [matchesInstant, firesAt_iff]
  constructor
  · rintro ⟨hminute, hhour, hday, hmonth, hweekday⟩
    exact ⟨hminute, hhour, ⟨hmonth, hday, hreal⟩, hweekday⟩
  · rintro ⟨hminute, hhour, ⟨hmonth, hday, -⟩, hweekday⟩
    exact ⟨hminute, hhour, hday, hmonth, hweekday⟩

/-- Values of a schedule that can be shown together are values of a schedule within which it fires. -/
lemma FiresWithin.values (h : s.FiresWithin s') (hs : s.InDomains) {minute hour weekday : ℤ}
    (hminute : minute ∈ s.minute) (hhour : hour ∈ s.hour) (hdate : s.HasRealDate month day)
    (hweekday : weekday ∈ s.dayOfWeek) :
    minute ∈ s'.minute ∧ hour ∈ s'.hour ∧ s'.HasRealDate month day ∧ weekday ∈ s'.dayOfWeek := by
  have hm : 0 ≤ minute ∧ minute ≤ 59 := hs.minute.contains minute hminute
  have hh : 0 ≤ hour ∧ hour ≤ 23 := hs.hour.contains hour hhour
  have hw : 0 ≤ weekday ∧ weekday ≤ 6 := hs.dayOfWeek.contains weekday hweekday
  lift minute to ℕ using hm.1
  lift hour to ℕ using hh.1
  lift weekday to ℕ using hw.1
  obtain ⟨t, ht⟩ := Instant.exists_showing (show minute < 60 by omega) (show hour < 24 by omega)
    hdate.2.2 (show weekday < 7 by omega)
  exact (matchesInstant_iff ht).mp
    (h t ((matchesInstant_iff ht).mpr ⟨hminute, hhour, hdate, hweekday⟩))

/-- **When a schedule fires only at instants at which another one fires.** Either it never fires, as it has
no real date, or all that it can show belongs to the other one: its values are projected one by one from an
instant at which it fires. -/
theorem firesWithin_iff (hs : s.InDomains) :
    s.FiresWithin s' ↔ ¬ s.HasDate Date.IsReal ∨ s.IsPart s' := by
  constructor
  · intro h
    by_cases hdate : s.HasDate Date.IsReal
    · right
      obtain ⟨month, day, hmonth, hday, hreal⟩ := hdate
      have hdate : s.HasRealDate month day := ⟨hmonth, hday, hreal⟩
      obtain ⟨minute, hminute⟩ := hs.minute.nonempty
      obtain ⟨hour, hhour⟩ := hs.hour.nonempty
      obtain ⟨weekday, hweekday⟩ := hs.dayOfWeek.nonempty
      exact
        { minute := fun v hv => (h.values hs hv hhour hdate hweekday).1
          hour := fun v hv => (h.values hs hminute hv hdate hweekday).2.1
          weekday := fun v hv => (h.values hs hminute hhour hdate hv).2.2.2
          date := fun _ _ hd => (h.values hs hminute hhour hd hweekday).2.2.1 }
    · exact Or.inl hdate
  · rintro (hnone | hpart) t ht
    · obtain ⟨-, -, hdate, -⟩ := (matchesInstant_iff ⟨rfl, rfl, rfl, rfl, rfl⟩).mp ht
      exact absurd ⟨_, _, hdate⟩ hnone
    · obtain ⟨hminute, hhour, hdate, hweekday⟩ :=
        (matchesInstant_iff ⟨rfl, rfl, rfl, rfl, rfl⟩).mp ht
      exact (matchesInstant_iff ⟨rfl, rfl, rfl, rfl, rfl⟩).mpr
        ⟨hpart.minute _ hminute, hpart.hour _ hhour, hpart.date _ _ hdate, hpart.weekday _ hweekday⟩

/-! ### Schedules that fire together -/

/-- The schedules have the same times, days of the week and real dates. -/
structure SameDates (s s' : Schedule) : Prop where
  minute : s.minute = s'.minute
  hour : s.hour = s'.hour
  weekday : s.dayOfWeek = s'.dayOfWeek
  date : ∀ month day, s.HasRealDate month day ↔ s'.HasRealDate month day

lemma sameDates_iff : s.SameDates s' ↔ s.IsPart s' ∧ s'.IsPart s := by
  constructor
  · rintro ⟨hminute, hhour, hweekday, hdate⟩
    refine ⟨⟨?_, ?_, ?_, fun month day => (hdate month day).mp⟩,
      ⟨?_, ?_, ?_, fun month day => (hdate month day).mpr⟩⟩ <;> simp [hminute, hhour, hweekday]
  · rintro ⟨h, h'⟩
    exact
      { minute := FieldSet.ext_mem fun v => ⟨h.minute v, h'.minute v⟩
        hour := FieldSet.ext_mem fun v => ⟨h.hour v, h'.hour v⟩
        weekday := FieldSet.ext_mem fun v => ⟨h.weekday v, h'.weekday v⟩
        date := fun month day => ⟨h.date month day, h'.date month day⟩ }

lemma same_iff_firesWithin : (∀ t, s.matchesInstant t = s'.matchesInstant t) ↔
    s.FiresWithin s' ∧ s'.FiresWithin s := by
  constructor
  · intro hsame
    exact ⟨fun t ht => hsame t ▸ ht, fun t ht => (hsame t).symm ▸ ht⟩
  · rintro ⟨h, h'⟩ t
    exact Bool.eq_iff_iff.mpr ⟨h t, h' t⟩

/-- A real date of a part is a real date of the whole. -/
lemma IsPart.hasDate (h : s.IsPart s') (hdate : s.HasDate Date.IsReal) :
    s'.HasDate Date.IsReal := by
  obtain ⟨month, day, hmonth, hday, hreal⟩ := hdate
  exact ⟨month, day, h.date month day ⟨hmonth, hday, hreal⟩⟩

/-- **Two schedules fire at the same instants exactly when they have the same times, days of the week and
real dates**, unless neither of them has a real date. -/
theorem same_iff_sameDates (hs : s.InDomains) (hs' : s'.InDomains) :
    (∀ t, s.matchesInstant t = s'.matchesInstant t) ↔
      ¬ s.HasDate Date.IsReal ∧ ¬ s'.HasDate Date.IsReal ∨ s.SameDates s' := by
  rw [same_iff_firesWithin, firesWithin_iff hs, firesWithin_iff hs', sameDates_iff]
  constructor
  · rintro ⟨hnone | hpart, hnone' | hpart'⟩
    · exact Or.inl ⟨hnone, hnone'⟩
    · exact Or.inl ⟨hnone, fun hdate => hnone (hpart'.hasDate hdate)⟩
    · exact Or.inl ⟨fun hdate => hnone' (hpart.hasDate hdate), hnone'⟩
    · exact Or.inr ⟨hpart, hpart'⟩
  · rintro (⟨hnone, hnone'⟩ | ⟨hpart, hpart'⟩)
    · exact ⟨Or.inl hnone, Or.inl hnone'⟩
    · exact ⟨Or.inr hpart, Or.inr hpart'⟩

/-- All days of the month are among the first 28, which every month has. -/
def HasShortMonths (s : Schedule) : Prop := ∀ day ∈ s.dayOfMonth, day ≤ 28

/-- In short months every month and every day of a schedule are a real date. -/
lemma HasShortMonths.hasRealDate (hshort : s.HasShortMonths) (hs : s.InDomains) {month day : ℤ}
    (hmonth : month ∈ s.month) (hday : day ∈ s.dayOfMonth) :
    s.HasRealDate month.toNat day.toNat := by
  have hm : 1 ≤ month ∧ month ≤ 12 := hs.month.contains month hmonth
  have hd : 1 ≤ day ∧ day ≤ 31 := hs.dayOfMonth.contains day hday
  have hle := hshort day hday
  refine ⟨?_, ?_, Date.isReal_of_le (by omega) (by omega)⟩
  · rwa [Int.toNat_of_nonneg (by omega)]
  · rwa [Int.toNat_of_nonneg (by omega)]

/-- In short months the real dates tell the months and the days. -/
lemma IsPart.months_days (h : s.IsPart s') (hshort : s.HasShortMonths) (hs : s.InDomains) :
    (∀ v ∈ s.month, v ∈ s'.month) ∧ ∀ v ∈ s.dayOfMonth, v ∈ s'.dayOfMonth := by
  have hpair : ∀ {month day : ℤ}, month ∈ s.month → day ∈ s.dayOfMonth →
      month ∈ s'.month ∧ day ∈ s'.dayOfMonth := by
    intro month day hmonth hday
    have hm : 1 ≤ month ∧ month ≤ 12 := hs.month.contains month hmonth
    have hd : 1 ≤ day ∧ day ≤ 31 := hs.dayOfMonth.contains day hday
    obtain ⟨hmonth', hday', -⟩ := h.date _ _ (hshort.hasRealDate hs hmonth hday)
    rw [Int.toNat_of_nonneg (by omega)] at hmonth' hday'
    exact ⟨hmonth', hday'⟩
  obtain ⟨month, hmonth⟩ := hs.month.nonempty
  obtain ⟨day, hday⟩ := hs.dayOfMonth.nonempty
  exact ⟨fun v hv => (hpair hv hday).1, fun v hv => (hpair hmonth hv).2⟩

/-- **In short months, schedules that fire at the same instants are equal.** -/
theorem eq_iff_same (hs : s.InDomains) (hs' : s'.InDomains) (hshort : s.HasShortMonths)
    (hshort' : s'.HasShortMonths) : s = s' ↔ ∀ t, s.matchesInstant t = s'.matchesInstant t := by
  constructor
  · rintro rfl t
    rfl
  · intro hsame
    obtain ⟨month, hmonth⟩ := hs.month.nonempty
    obtain ⟨day, hday⟩ := hs.dayOfMonth.nonempty
    have hdate : s.HasDate Date.IsReal := ⟨_, _, hshort.hasRealDate hs hmonth hday⟩
    rcases (same_iff_sameDates hs hs').mp hsame with ⟨hnone, -⟩ | hdates
    · exact absurd hdate hnone
    · obtain ⟨hpart, hpart'⟩ := sameDates_iff.mp hdates
      obtain ⟨hmonths, hdays⟩ := hpart.months_days hshort hs
      obtain ⟨hmonths', hdays'⟩ := hpart'.months_days hshort' hs'
      obtain ⟨m, h, d, mo, w⟩ := s
      obtain ⟨m', h', d', mo', w'⟩ := s'
      rw [Schedule.mk.injEq]
      exact ⟨hdates.minute, hdates.hour, FieldSet.ext_mem fun v => ⟨hdays v, hdays' v⟩,
        FieldSet.ext_mem fun v => ⟨hmonths v, hmonths' v⟩, hdates.weekday⟩

end Schedule

namespace Cron

/-- **When two expressions are the same schedule.** They fire at the same instants of the calendar exactly
when neither of them has a real date, or they have the same minutes, hours and days of the week, and the same
real dates. If all their days are days of every month, they fire at the same instants only if all their sets
are equal. -/
theorem matches_iff_same_dates {a b : String} {c c' : Cron} (h : parse a = .ok c)
    (h' : parse b = .ok c') :
    ((∀ t, c.schedule.matchesInstant t = c'.schedule.matchesInstant t) ↔
      ¬ c.schedule.HasDate Date.IsReal ∧ ¬ c'.schedule.HasDate Date.IsReal ∨
        c.schedule.minute = c'.schedule.minute ∧ c.schedule.hour = c'.schedule.hour ∧
          c.schedule.dayOfWeek = c'.schedule.dayOfWeek ∧
            ∀ month day, c.schedule.HasRealDate month day ↔ c'.schedule.HasRealDate month day) ∧
    ((∀ day ∈ c.schedule.dayOfMonth, day ≤ 28) → (∀ day ∈ c'.schedule.dayOfMonth, day ≤ 28) →
      (c.schedule = c'.schedule ↔
        ∀ t, c.schedule.matchesInstant t = c'.schedule.matchesInstant t)) := by
  have hs := inDomains_of_parse h
  have hs' := inDomains_of_parse h'
  refine ⟨?_, fun hshort hshort' => Schedule.eq_iff_same hs hs' hshort hshort'⟩
  rw [Schedule.same_iff_sameDates hs hs']
  refine or_congr_right ⟨fun hdates => ?_, fun ⟨hminute, hhour, hweekday, hdate⟩ => ?_⟩
  · exact ⟨hdates.minute, hdates.hour, hdates.weekday, hdates.date⟩
  · exact ⟨hminute, hhour, hweekday, hdate⟩

/-- Midnight of the 31st of these months. -/
def lastDays (months : List ℤ) : Schedule where
  minute := .ofList [0]
  hour := .ofList [0]
  dayOfMonth := .ofList [31]
  month := .ofList months
  dayOfWeek := .ofList (interval 0 6)

/-- February has no 31st, so that it makes a schedule no different at any instant. -/
theorem matches_iff_same_dates_february :
    ∃ c c', parse "0 0 31 1,2 *" = .ok c ∧ parse "0 0 31 1 *" = .ok c' ∧ c.schedule ≠ c'.schedule ∧
      ∀ t, c.schedule.matchesInstant t = c'.schedule.matchesInstant t := by
  have hparse : parse "0 0 31 1,2 *" = .ok ⟨"0 0 31 1,2 *", lastDays [1, 2]⟩ := rfl
  have hparse' : parse "0 0 31 1 *" = .ok ⟨"0 0 31 1 *", lastDays [1]⟩ := rfl
  have hdate : ∀ month day, (lastDays [1, 2]).HasRealDate month day ↔
      (lastDays [1]).HasRealDate month day := by
    intro month day
    have hfebruary : ¬ Date.IsReal 2 31 := by
      rw [Date.isReal_iff]
      decide
    simp only [Schedule.HasRealDate, lastDays, FieldSet.mem_ofList, List.mem_cons,
      List.not_mem_nil, or_false, or_and_right, or_iff_left_iff_imp]
    rintro ⟨hmonth, hday, hreal⟩
    obtain rfl : month = 2 := by omega
    obtain rfl : day = 31 := by omega
    exact absurd hreal hfebruary
  refine ⟨_, _, hparse, hparse', by decide, (matches_iff_same_dates hparse hparse').1.mpr ?_⟩
  exact Or.inr ⟨rfl, rfl, rfl, hdate⟩

end Cron

end CronPreview
