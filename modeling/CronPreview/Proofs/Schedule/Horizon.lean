/-
How far ahead the next run can be.

* `Schedule.exists_nextRun_iff`: a search finds a run when the schedule fires after the start and
  within the limit;
* `Schedule.exists_firesAt`: a schedule fires on every day that its three sets of days allow;
* `Date.InEveryCommonYear`, `Schedule.HasDate`: dates of every common year, and a schedule with such a
  date or with any other kind of date;
* `Schedule.exists_nextRun_of_months`, `Schedule.exists_nextRun_of_weekdays`: two years are enough for
  a schedule of all months, and for one of all days of the week with a date of every common year;
* `Schedule.not_exists_nextRun_in_2021`: otherwise two years are not enough, as the leap day does not
  come between 2021 and 2023;
* `Cron.exhausted_iff`: a search is told to be exhausted when there is no run, if its limit can be written;
* `Cron.twoYears_suffice`: which expressions have a run within two years, and which ones have none.
-/
import CronPreview.Proofs.Calendar.Weekdays
import CronPreview.Proofs.Schedule.FirstMatch
import CronPreview.Proofs.Schedule.Parsed

namespace CronPreview

namespace Schedule

variable {s : Schedule} {start : Instant}

/-! ### Searches -/

/-- **A search finds a run when the schedule fires** in a minute after the start and within the
limit. -/
theorem exists_nextRun_iff {limit : ℤ} :
    (∃ t, s.nextRun start limit = .ok t) ↔
      ∃ m, (start.minute < m ∧ m ≤ lastMinute) ∧ (m : ℤ) ≤ start.minute + limit ∧
        s.firesAt m = true := by
  constructor
  · rintro ⟨t, ht⟩
    obtain ⟨k, hk, hcandidate, hfires, -⟩ := nextRun_eq_ok_iff.mp ht
    have hminute := (Instant.candidate?_eq_some_iff.mp hcandidate).1
    exact ⟨t.minute, ⟨by omega, t.minute_le_lastMinute⟩, by omega, hfires⟩
  · rintro ⟨m, ⟨hlt, hlast⟩, hlimit, hfires⟩
    cases h : s.nextRun start limit with
    | ok t => exact ⟨t, rfl⟩
    | error e =>
        have hnone := (nextRun_eq_error_iff.mp h).1
        have hsome : (start.candidate? (m - start.minute - 1)).isSome = true := by
          rw [Instant.isSome_candidate?_iff, Instant.candidateCount]
          omega
        obtain ⟨u, hu⟩ := Option.isSome_iff_exists.mp hsome
        have hminute : u.minute = m := by
          have := (Instant.candidate?_eq_some_iff.mp hu).1
          omega
        have hfalse := hnone (m - start.minute - 1) u (by omega) hu
        rw [matchesInstant, hminute, hfires] at hfalse
        cases hfalse

/-! ### Days -/

/-- The day of the month, the month and the day of the week are values of the schedule. -/
structure AllowsDay (s : Schedule) (n : ℕ) : Prop where
  day : ((Date.ofDay n).day : ℤ) ∈ s.dayOfMonth
  month : ((Date.ofDay n).month : ℤ) ∈ s.month
  weekday : (CronPreview.dayOfWeek n : ℤ) ∈ s.dayOfWeek

lemma AllowsDay.of_firesAt {m : ℕ} (h : s.firesAt m = true) : s.AllowsDay (dayOf m) := by
  obtain ⟨-, -, hday, hmonth, hweekday⟩ := firesAt_iff.mp h
  exact ⟨hday, hmonth, hweekday⟩

/-- A schedule fires on every day that it allows. -/
theorem exists_firesAt (hs : s.InDomains) {n : ℕ} (h : s.AllowsDay n) :
    ∃ m, dayOf m = n ∧ s.firesAt m = true := by
  obtain ⟨hour, hhour, -, hhour₂₃⟩ := hs.hour.exists_nat (by decide)
  obtain ⟨minute, hminute, -, hminute₅₉⟩ := hs.minute.exists_nat (by decide)
  simp only [Domain.hour, Domain.minute] at hhour₂₃ hminute₅₉
  have hday : dayOf (n * 1440 + hour * 60 + minute) = n := by
    rw [dayOf, minutesPerDay]
    omega
  have hh : hourOfDay (n * 1440 + hour * 60 + minute) = hour := by
    rw [hourOfDay]
    omega
  have hm : minuteOfHour (n * 1440 + hour * 60 + minute) = minute := by
    rw [minuteOfHour]
    omega
  refine ⟨n * 1440 + hour * 60 + minute, hday, firesAt_iff.mpr ?_⟩
  rw [hday, hh, hm]
  exact ⟨hminute, hhour, h.day, h.month, h.weekday⟩

/-- Two years are enough when the schedule allows one of the 731 days after the day of the start. On
the day of the start it may be too late. -/
lemma exists_nextRun_of_allowsDay (hs : s.InDomains) {n : ℕ} (h : s.AllowsDay n)
    (hn : dayOf start.minute < n ∧ n ≤ dayOf start.minute + 731)
    (hleft : start.minute + 732 * minutesPerDay < calendarMinutes) :
    ∃ t, s.nextRun start twoYears = .ok t := by
  obtain ⟨m, hm, hfires⟩ := exists_firesAt hs h
  have hend := lastMinute_succ
  simp only [dayOf, minutesPerDay] at hm hn hleft
  rw [exists_nextRun_iff, twoYears_eq]
  exact ⟨m, ⟨by omega, by omega⟩, by omega, hfires⟩

end Schedule

/-! ### Dates -/

/-- The month and the day are those of a date of every common year. -/
def Date.InEveryCommonYear (month day : ℕ) : Prop :=
  ∀ year, 1 ≤ year ∧ year ≤ 9999 → isLeap year = false → (⟨year, month, day⟩ : Date).IsValid

lemma Date.inEveryCommonYear_iff {month day : ℕ} :
    Date.InEveryCommonYear month day ↔
      1 ≤ month ∧ 1 ≤ day ∧ day ≤ commonMonths.getD (month - 1) 0 := by
  have hmonths : ∀ {year}, isLeap year = false → monthLengths year = commonMonths := by
    intro year h
    rw [monthLengths, h]
    rfl
  constructor
  · intro h
    have h2001 : isLeap 2001 = false := by decide
    obtain ⟨-, hm, h₁, h₂⟩ := h 2001 (by decide) h2001
    refine ⟨hm, h₁, ?_⟩
    rw [← hmonths h2001]
    exact h₂
  · rintro ⟨hm, h₁, h₂⟩ year hyear hcommon
    refine ⟨hyear, hm, h₁, ?_⟩
    rw [hmonths hcommon]
    exact h₂

/-- The schedule has a month and a day of the month of this kind. -/
def Schedule.HasDate (s : Schedule) (P : ℕ → ℕ → Prop) : Prop :=
  ∃ month day : ℕ, (month : ℤ) ∈ s.month ∧ (day : ℤ) ∈ s.dayOfMonth ∧ P month day

namespace Schedule

variable {s : Schedule} {start : Instant}

/-- **Two years are enough for a schedule of all months**, whatever its days are: its first day of the
month falls on its first day of the week within 639 days. -/
theorem exists_nextRun_of_months (hs : s.InDomains)
    (hmonths : ∀ m : ℤ, 1 ≤ m ∧ m ≤ 12 → m ∈ s.month)
    (hleft : start.minute + 732 * minutesPerDay < calendarMinutes) :
    ∃ t, s.nextRun start twoYears = .ok t := by
  obtain ⟨day, hday, hday₁, hday₃₁⟩ := hs.dayOfMonth.exists_nat (by decide)
  obtain ⟨w, hw, -, hw₆⟩ := hs.dayOfWeek.exists_nat (by decide)
  simp only [Domain.dayOfMonth, Domain.dayOfWeek] at hday₁ hday₃₁ hw₆
  obtain ⟨n, hn, rfl, hmonth, rfl⟩ :=
    Date.exists_day_on_weekday (dayOf start.minute) (show 1 ≤ day by omega)
      (show day ≤ 31 by omega) (show w < 7 by omega)
  have hallows : s.AllowsDay n := ⟨hday, hmonths _ (by omega), hw⟩
  exact exists_nextRun_of_allowsDay hs hallows (by omega) hleft

/-- **Two years are enough for a schedule of all days of the week** with a date of every common year:
such a date comes back in the next year. -/
theorem exists_nextRun_of_weekdays (hs : s.InDomains)
    (hweekdays : ∀ w : ℤ, 0 ≤ w ∧ w ≤ 6 → w ∈ s.dayOfWeek) (hdate : s.HasDate Date.InEveryCommonYear)
    (hleft : start.minute + 732 * minutesPerDay < calendarMinutes) :
    ∃ t, s.nextRun start twoYears = .ok t := by
  obtain ⟨month, day, hmonth, hday, hcommon⟩ := hdate
  obtain ⟨hm, h₁, h₂⟩ := Date.inEveryCommonYear_iff.mp hcommon
  obtain ⟨n, hn, rfl, rfl⟩ := Date.exists_next_year (dayOf start.minute) hm h₁ h₂
  have hweek : CronPreview.dayOfWeek n < 7 := Nat.mod_lt _ (by decide)
  have hallows : s.AllowsDay n := ⟨hday, hmonth, hweekdays _ (by omega)⟩
  exact exists_nextRun_of_allowsDay hs hallows hn hleft

/-- **Without a date of every common year two years are not enough** at the beginning of 2021: the 732
days from there on lie in common years. -/
theorem not_exists_nextRun_in_2021 (hdate : ¬ s.HasDate Date.InEveryCommonYear)
    (hstart : start.minute = Instant.minuteNumber ⟨2021, 1, 1⟩ 0 0) :
    ¬ ∃ t, s.nextRun start twoYears = .ok t := by
  rw [exists_nextRun_iff, twoYears_eq]
  rintro ⟨m, ⟨hlt, -⟩, hlimit, hfires⟩
  obtain ⟨y, i, r, hy, -, hr, hday⟩ := Date.exists_month (dayOf m)
  have hallows := AllowsDay.of_firesAt hfires
  rw [hday] at hallows
  have hdayin := hallows.day
  have hmonthin := hallows.month
  rw [Date.ofDay_add hy hr] at hdayin hmonthin
  have hin := Date.total_take_add_lt hr
  have hnewYear : Instant.minuteNumber ⟨2021, 1, 1⟩ 0 0 = daysBeforeYear 2021 * 1440 := by decide
  have hcycle : daysBeforeYear 2024 = daysBeforeYear 2021 + 1095 := by decide
  rw [dayOf, minutesPerDay] at hday
  rw [hstart, hnewYear] at hlt hlimit
  have hfirst : 2021 ≤ y := by
    by_contra hearly
    have hnext := daysBeforeYear_succ hy
    have hmono := daysBeforeYear_mono (y := y + 1) (z := 2021) (by omega) (by omega)
    rw [yearLength] at hnext
    omega
  have hlast : y ≤ 2023 := by
    by_contra hlate
    have hmono := daysBeforeYear_mono (y := 2024) (z := y) (by omega) (by omega)
    omega
  have hcommon : monthLengths y = commonMonths := by
    interval_cases y
    · rfl
    · rfl
    · rfl
  rw [hcommon] at hr
  exact hdate ⟨i + 1, r + 1, hmonthin, hdayin, Date.inEveryCommonYear_iff.mpr
    ⟨by omega, by omega, by simpa using hr⟩⟩

/-- **A schedule with a date has a run**, after some start and within some limit: the date falls on
the first day of the week of the schedule in some year. -/
theorem exists_nextRun_of_date (hs : s.InDomains)
    (hdate : s.HasDate fun month day => ∃ year, (⟨year, month, day⟩ : Date).IsValid) :
    ∃ start limit t, s.nextRun start limit = .ok t := by
  obtain ⟨month, day, hmonth, hday, year, hvalid⟩ := hdate
  obtain ⟨w, hw, -, hw₆⟩ := hs.dayOfWeek.exists_nat (by decide)
  simp only [Domain.dayOfWeek] at hw₆
  obtain ⟨y, hyear, hy, rfl⟩ := Date.exists_weekday hvalid (show w < 7 by omega)
  have hdate : Date.ofDay (Date.toDay ⟨y, month, day⟩) = ⟨y, month, day⟩ :=
    Date.ofDay_toDay hy.1.1 hy.2.1 hy.2.2.1 hy.2.2.2
  have hallows : s.AllowsDay (Date.toDay ⟨y, month, day⟩) := by
    refine ⟨?_, ?_, hw⟩
    · rw [hdate]
      exact hday
    · rw [hdate]
      exact hmonth
  obtain ⟨m, hm, hfires⟩ := exists_firesAt hs hallows
  have hpos : 0 < dayOf m := by
    calc 0 < daysBeforeYear 2000 := by decide
      _ ≤ daysBeforeYear y := daysBeforeYear_mono (by decide) hyear.1
      _ ≤ Date.toDay ⟨y, month, day⟩ := by
        rw [Date.toDay, Nat.add_assoc]
        exact Nat.le_add_right _ _
      _ = dayOf m := hm.symm
  have hlast := Date.toDay_lt hy
  have hend := lastMinute_succ
  have hminutes := calendarMinutes_eq
  rw [← hm] at hlast
  rw [dayOf, minutesPerDay] at hpos hlast
  obtain ⟨start, hstart⟩ := Instant.exists_minute (m := 0) (by decide)
  exact ⟨start, m, exists_nextRun_iff.mpr ⟨m, ⟨by omega, by omega⟩, by omega, hfires⟩⟩

/-- A schedule without a date never fires. -/
lemma hasDate_of_firesAt {m : ℕ} (hm : m ≤ lastMinute) (h : s.firesAt m = true) :
    s.HasDate fun month day => ∃ year, (⟨year, month, day⟩ : Date).IsValid := by
  have hallows := AllowsDay.of_firesAt h
  have hend := lastMinute_succ
  have hday : dayOf m < calendarDays := dayOf_lt (by omega)
  -- stated of any date, so that the date of the minute is not computed
  have hreal : ∀ d : Date, d.IsValid → ∃ year, (⟨year, d.month, d.day⟩ : Date).IsValid :=
    fun d hd => ⟨d.year, hd⟩
  exact ⟨_, _, hallows.month, hallows.day, hreal _ (Date.isValid_ofDay hday)⟩

end Schedule

/-! ### Expressions -/

namespace Cron

variable {c : Cron} {start : Instant} {limit : ℤ}

/-- The search for the next run is exhausted. -/
def Exhausted (c : Cron) (start : Instant) (limit : ℤ) : Prop :=
  ∃ f, c.nextRun start limit = .error f ∧ f.kind? = some .searchExhausted

/-- Unless the limit is a negative number of too many digits, the search is exhausted when there is no run. -/
lemma exhausted_iff (hlow : -10 ^ Numeral.maxDigits < limit) :
    c.Exhausted start limit ↔ ¬ ∃ t, c.schedule.nextRun start limit = .ok t := by
  cases h : c.schedule.nextRun start limit with
  | ok t =>
      refine iff_of_false ?_ fun hnone => hnone ⟨t, rfl⟩
      rintro ⟨f, hf, -⟩
      obtain ⟨e, he, -⟩ := nextRun_eq_error_iff.mp hf
      rw [h] at he
      cases he
  | error e =>
      have hfails : c.nextRun start limit = .error (.ofSearch c.source e) :=
        nextRun_eq_error_iff.mpr ⟨e, h, rfl⟩
      obtain ⟨e', he'⟩ := exists_exhausted_of_nextRun hlow hfails
      refine iff_of_true ⟨_, hfails, he' ▸ rfl⟩ ?_
      rintro ⟨t, ht⟩
      cases ht

/-- **Two years are enough for every ordinary expression.** The search within two years finds a run,
from every start that has as much time left, for an expression of all months, and for one of all days
of the week with a date of every common year; an expression of all days of the week without such a
date has a start from which the search is exhausted. The search is always exhausted, whatever its
start and its limit are, when the expression has no date at all, and only then. This leaves out the
negative limits of more digits than can be written, with which no search is told to be exhausted as long
as the calendar has a minute left. -/
theorem twoYears_suffice {text : String} (h : parse text = .ok c) :
    ((∀ m : ℤ, 1 ≤ m ∧ m ≤ 12 → m ∈ c.schedule.month) →
      ∀ start : Instant, start.minute + 732 * minutesPerDay < calendarMinutes →
        ∃ t, c.nextRun start twoYears = .ok t) ∧
    ((∀ w : ℤ, 0 ≤ w ∧ w ≤ 6 → w ∈ c.schedule.dayOfWeek) →
      (c.schedule.HasDate Date.InEveryCommonYear →
        ∀ start : Instant, start.minute + 732 * minutesPerDay < calendarMinutes →
          ∃ t, c.nextRun start twoYears = .ok t) ∧
      (¬ c.schedule.HasDate Date.InEveryCommonYear →
        ∃ start : Instant, start.minute + 732 * minutesPerDay < calendarMinutes ∧
          c.Exhausted start twoYears)) ∧
    ((∀ start limit, -10 ^ Numeral.maxDigits < limit → c.Exhausted start limit) ↔
      ¬ c.schedule.HasDate fun month day => ∃ year, (⟨year, month, day⟩ : Date).IsValid) ∧
    ∀ start limit, limit ≤ -10 ^ Numeral.maxDigits → start.candidateCount ≠ 0 →
      ∃ f, c.nextRun start limit = .error f ∧ f.IsLongInteger := by
  have hs := inDomains_of_parse h
  simp only [nextRun_eq_ok_iff]
  refine ⟨fun hmonths start hleft => Schedule.exists_nextRun_of_months hs hmonths hleft,
    fun hweekdays => ⟨fun hdate start hleft => ?_, fun hdate => ?_⟩, ?_, fun start limit hlong hcount => ?_⟩
  · exact Schedule.exists_nextRun_of_weekdays hs hweekdays hdate hleft
  · obtain ⟨start, hstart⟩ : ∃ t : Instant, t.minute = Instant.minuteNumber ⟨2021, 1, 1⟩ 0 0 :=
      Instant.exists_minute (by decide)
    refine ⟨start, ?_, (exhausted_iff (longLimit_lt_of_nonneg (by decide))).mpr
      (Schedule.not_exists_nextRun_in_2021 hdate hstart)⟩
    rw [hstart]
    decide
  · constructor
    · intro hnever hdate
      obtain ⟨start, limit, t, hrun⟩ := Schedule.exists_nextRun_of_date hs hdate
      -- a limit within which there is a run is not negative
      have hlow : -10 ^ Numeral.maxDigits < limit := by
        obtain ⟨m, ⟨hlt, -⟩, hle, -⟩ := Schedule.exists_nextRun_iff.mp ⟨t, hrun⟩
        exact longLimit_lt_of_nonneg (by omega)
      exact (exhausted_iff hlow).mp (hnever start limit hlow) ⟨t, hrun⟩
    · intro hdate start limit hlow
      rw [exhausted_iff hlow]
      intro hrun
      obtain ⟨m, ⟨-, hlast⟩, -, hfires⟩ := Schedule.exists_nextRun_iff.mp hrun
      exact hdate (Schedule.hasDate_of_firesAt hlast hfires)
  · exact ⟨_, nextRun_of_longLimit c hcount hlong, Failure.isLongInteger⟩

/-- Midnight of a day of a month in every year. -/
def yearlyOn (source : String) (month day : ℕ) : Cron where
  source := source
  schedule :=
    { minute := .ofList [0]
      hour := .ofList [0]
      dayOfMonth := .ofList [(day : ℤ)]
      month := .ofList [(month : ℤ)]
      dayOfWeek := .ofList (interval 0 6) }

lemma hasDate_yearlyOn_iff {source : String} {month day : ℕ} {P : ℕ → ℕ → Prop} :
    (yearlyOn source month day).schedule.HasDate P ↔ P month day := by
  constructor
  · rintro ⟨m, d, hm, hd, hP⟩
    simp only [yearlyOn, FieldSet.mem_ofList, List.mem_singleton, Int.natCast_inj] at hm hd
    exact hm ▸ hd ▸ hP
  · exact fun hP => ⟨month, day, FieldSet.mem_ofList.mpr (by simp), FieldSet.mem_ofList.mpr (by simp), hP⟩

/-- The leap day has runs, but not always within two years. -/
theorem twoYears_suffice_leapDay :
    parse "0 0 29 2 *" = .ok (yearlyOn "0 0 29 2 *" 2 29) ∧
      (∃ start : Instant, start.minute + 732 * minutesPerDay < calendarMinutes ∧
        (yearlyOn "0 0 29 2 *" 2 29).Exhausted start twoYears) ∧
      ¬ ∀ start limit, -10 ^ Numeral.maxDigits < limit →
        (yearlyOn "0 0 29 2 *" 2 29).Exhausted start limit := by
  have hparse : parse "0 0 29 2 *" = .ok (yearlyOn "0 0 29 2 *" 2 29) := rfl
  have hweekdays : ∀ w : ℤ, 0 ≤ w ∧ w ≤ 6 →
      w ∈ (yearlyOn "0 0 29 2 *" 2 29).schedule.dayOfWeek := by
    intro w hw
    exact FieldSet.mem_ofList.mpr (mem_interval.mpr hw)
  have hcommon : ¬ (yearlyOn "0 0 29 2 *" 2 29).schedule.HasDate Date.InEveryCommonYear := by
    rw [hasDate_yearlyOn_iff, Date.inEveryCommonYear_iff]
    decide
  have hleap : (yearlyOn "0 0 29 2 *" 2 29).schedule.HasDate fun month day =>
      ∃ year, (⟨year, month, day⟩ : Date).IsValid :=
    hasDate_yearlyOn_iff.mpr ⟨2000, by decide⟩
  obtain ⟨-, hweek, hnever, -⟩ := twoYears_suffice hparse
  exact ⟨hparse, (hweek hweekdays).2 hcommon, fun h => hnever.mp h hleap⟩

/-- **An impossible date may not be told as such.** The thirtieth of February has no run, but with a limit that
is too long to be written the search for one is not told to be exhausted. -/
theorem impossible_date_untold :
    parse "0 0 30 2 *" = .ok (yearlyOn "0 0 30 2 *" 2 30) ∧
      (¬ (yearlyOn "0 0 30 2 *" 2 30).schedule.HasDate fun month day =>
        ∃ year, (⟨year, month, day⟩ : Date).IsValid) ∧
      ¬ ∀ start limit, (yearlyOn "0 0 30 2 *" 2 30).Exhausted start limit := by
  refine ⟨rfl, ?_, fun halways => ?_⟩
  · rw [hasDate_yearlyOn_iff]
    rintro ⟨year, -, -, -, hday⟩
    have hlengths : ∀ lengths ∈ [leapMonths, commonMonths], lengths.getD (2 - 1) 0 < 30 := by decide
    have hlength : (monthLengths year).getD (2 - 1) 0 < 30 := by
      rw [monthLengths]
      split
      · exact hlengths _ (by simp)
      · exact hlengths _ (by simp)
    exact absurd hday (Nat.not_le.mpr hlength)
  · obtain ⟨start, hstart⟩ : ∃ t : Instant, t.minute = Instant.minuteNumber ⟨2024, 1, 1⟩ 0 0 :=
      Instant.exists_minute (by decide)
    have hcount : start.candidateCount ≠ 0 := by
      rw [Instant.candidateCount, hstart]
      decide
    exact not_exhausted_of_longLimit hcount le_rfl (halways start (-10 ^ Numeral.maxDigits))

end Cron

end CronPreview
