/-
Summaries that name a time of day.

* `Instant.clockText_eq_iff`: the time of day that is shown tells the hour and the minute;
* `clock_of_summary_eq`: a summary that names a time of day is about an expression that reads as daily, and
  names the time of the first run;
* `Schedule.HasAllDays`, `Schedule.HasAllDays.matchesInstant_iff`: a schedule that leaves out no day fires
  whenever the time of day is its own;
* `Schedule.HasFixedTime`, `Schedule.HasAllDays.forall_clockText_eq_iff`: it fires at one time of day only if it
  has one minute and one hour;
* `Cron.daily_summary_true_iff`: when a summary that names a time of day tells the whole truth.
-/
import CronPreview.Proofs.Calendar.Notation
import CronPreview.Proofs.Description.Summary
import CronPreview.Proofs.Description.Words
import CronPreview.Proofs.Schedule.Equivalence
import CronPreview.Proofs.Schedule.Runs

namespace CronPreview

/-! ### Times of day -/

namespace Instant

variable {t u : Instant}

/-- The time of day that is shown tells the hour and the minute. -/
theorem clockText_eq_iff :
    t.clockText = u.clockText ↔ t.hourOfDay = u.hourOfDay ∧ t.minuteOfHour = u.minuteOfHour := by
  constructor
  · intro h
    have hread : ∀ v : Instant, readClock? (v.clockText.toList ++ []) =
        some ((v.hourOfDay, v.minuteOfHour), []) := by
      intro v
      have hhour := v.hourOfDay_lt
      have hminute := v.minuteOfHour_lt
      rw [clockText, String.toList_ofList]
      exact readClock?_writeClock (by omega) (by omega) []
    have hsame := (hread t).symm.trans (h ▸ hread u)
    simpa using hsame
  · rintro ⟨hhour, hminute⟩
    rw [clockText, clockText, hhour, hminute]

end Instant

/-- A summary that names a time of day is about an expression that reads as daily, and names the time of the
first run: any other summary begins with other letters. -/
lemma clock_of_summary_eq {localZone : LocalZone} {text clock : String} {f₁ f₂ f₃ f₄ f₅ : List Char}
    {first : Instant} {rest : List Instant} (hwords : Text.words text.toList = [f₁, f₂, f₃, f₄, f₅])
    (h : summary localZone text (first :: rest) = .ok ("At " ++ clock ++ " every day.")) :
    readsDaily f₁ f₂ f₃ f₄ f₅ = true ∧ clock = first.clockText := by
  rw [summary, hwords] at h
  dsimp only at h
  split at h
  · next hdaily =>
      have hletters := congrArg String.toList (Except.ok.inj h)
      simp only [String.toList_append, List.append_cancel_right_eq, List.append_cancel_left_eq] at hletters
      exact ⟨hdaily, (String.toList_inj.mp hletters).symm⟩
  · obtain ⟨zone, -, hnext⟩ := Except.map_eq_ok_iff.mp h
    have hletters := congrArg String.toList hnext
    simp at hletters

/-! ### Schedules that leave out no day -/

/-- Real dates are dates of the domains. -/
lemma Date.IsReal.contains {month day : ℕ} (h : Date.IsReal month day) :
    Domain.month.Contains month ∧ Domain.dayOfMonth.Contains day := by
  obtain ⟨hm, h₁, hlast⟩ := Date.isReal_iff.mp h
  have hmonth : month - 1 < leapMonths.length := by
    by_contra hout
    rw [List.getD_eq_default _ _ (Nat.le_of_not_lt hout)] at hlast
    omega
  have hlength : ∀ l ∈ leapMonths, l ≤ 31 := by decide
  have hmonths : leapMonths.length = 12 := by decide
  rw [List.getD_eq_getElem _ _ hmonth] at hlast
  have := hlength _ (List.getElem_mem hmonth)
  simp only [Domain.Contains, Domain.month, Domain.dayOfMonth]
  omega

namespace Schedule

variable {s : Schedule} {t first : Instant}

/-- No day is left out. -/
structure HasAllDays (s : Schedule) : Prop where
  dayOfMonth : ∀ v, Domain.dayOfMonth.Contains v → v ∈ s.dayOfMonth
  month : ∀ v, Domain.month.Contains v → v ∈ s.month
  dayOfWeek : ∀ v, Domain.dayOfWeek.Contains v → v ∈ s.dayOfWeek

/-- A schedule that leaves out no day fires whenever the time of day is its own. -/
theorem HasAllDays.matchesInstant_iff (h : s.HasAllDays) :
    s.matchesInstant t = true ↔ (t.minuteOfHour : ℤ) ∈ s.minute ∧ (t.hourOfDay : ℤ) ∈ s.hour := by
  have hdate := t.isReal_date.contains
  have hweekday : Domain.dayOfWeek.Contains t.dayOfWeek := by
    have hlt := t.dayOfWeek_lt
    simp only [Domain.Contains, Domain.dayOfWeek]
    omega
  rw [matchesInstant, firesAt_iff]
  constructor
  · rintro ⟨hminute, hhour, -⟩
    exact ⟨hminute, hhour⟩
  · rintro ⟨hminute, hhour⟩
    exact ⟨hminute, hhour, h.dayOfMonth _ hdate.2, h.month _ hdate.1, h.dayOfWeek _ hweekday⟩

/-- There is one minute of the hour, and one hour of the day. -/
structure HasFixedTime (s : Schedule) : Prop where
  minute : ∃ m, ∀ v, v ∈ s.minute ↔ v = m
  hour : ∃ h, ∀ v, v ∈ s.hour ↔ v = h

/-- **Without a day left out, a schedule fires at one time of day only if it has one minute and one hour.** Any
other minute of its own would come in the same hour of some day, and any other hour with the same minute. -/
theorem HasAllDays.forall_clockText_eq_iff (h : s.HasAllDays) (hs : s.InDomains)
    (hfirst : s.matchesInstant first = true) :
    (∀ t, s.matchesInstant t = true → t.clockText = first.clockText) ↔ s.HasFixedTime := by
  obtain ⟨hminute, hhour⟩ := h.matchesInstant_iff.mp hfirst
  simp only [Instant.clockText_eq_iff, h.matchesInstant_iff]
  constructor
  · intro honly
    have htime : ∀ {hour minute : ℕ}, (hour : ℤ) ∈ s.hour → (minute : ℤ) ∈ s.minute →
        hour = first.hourOfDay ∧ minute = first.minuteOfHour := by
      intro hour minute hh hm
      have hhour₂₃ : (hour : ℤ) ≤ 23 := (hs.hour.contains _ hh).2
      have hminute₅₉ : (minute : ℤ) ≤ 59 := (hs.minute.contains _ hm).2
      obtain ⟨t, rfl, rfl, -⟩ := Instant.exists_showing (show minute < 60 by omega)
        (show hour < 24 by omega) first.isReal_date (show 0 < 7 by decide)
      exact honly t ⟨hm, hh⟩
    refine ⟨⟨first.minuteOfHour, fun v => ⟨fun hv => ?_, ?_⟩⟩,
      ⟨first.hourOfDay, fun v => ⟨fun hv => ?_, ?_⟩⟩⟩
    · lift v to ℕ using (hs.minute.contains v hv).1
      rw [(htime hhour hv).2]
    · rintro rfl
      exact hminute
    · lift v to ℕ using (hs.hour.contains v hv).1
      rw [(htime hv hminute).1]
    · rintro rfl
      exact hhour
  · rintro ⟨⟨m, hm⟩, ⟨o, ho⟩⟩ t ⟨htm, hth⟩
    rw [hm] at hminute htm
    rw [ho] at hhour hth
    omega

end Schedule

namespace Cron

variable {text clock : String} {c : Cron}

/-- A lone star stands for the whole domain. -/
lemma contains_of_parse_star {d : Domain} {s : FieldSet} (h : Field.parse d ['*'] = .ok s) {v : ℤ}
    (hv : d.Contains v) : v ∈ s := by
  cases h
  exact FieldSet.mem_ofList.mpr (mem_interval.mpr hv)

/-- An expression that reads as daily leaves out no day. -/
theorem hasAllDays_of_readsDaily {f₁ f₂ f₃ f₄ f₅ : List Char} (hc : parse text = .ok c)
    (hwords : Text.words text.toList = [f₁, f₂, f₃, f₄, f₅])
    (hdaily : readsDaily f₁ f₂ f₃ f₄ f₅ = true) : c.schedule.HasAllDays := by
  simp only [readsDaily, Bool.and_eq_true, beq_iff_eq] at hdaily
  obtain ⟨⟨⟨⟨rfl, rfl⟩, rfl⟩, -⟩, -⟩ := hdaily
  rw [parse, hwords] at hc
  obtain ⟨s, hs, rfl⟩ := Except.map_eq_ok_iff.mp hc
  obtain ⟨-, -, h₃, h₄, h₅⟩ := parseFields_eq_ok_iff.mp hs
  exact ⟨fun v => contains_of_parse_star h₃, fun v => contains_of_parse_star h₄,
    fun v => contains_of_parse_star h₅⟩

/-- **When a summary that names a time of day tells the whole truth.** The time is that of the first run, and
the expression does fire at this time on every day of the calendar. But it fires at no other time of any day
exactly when it has one minute and one hour only, which the summary does not look at. -/
theorem daily_summary_true_iff {localZone : LocalZone} {start : Instant} {count limit : ℤ}
    {runs : List Instant} (hc : parse text = .ok c) (hcount : 1 ≤ count)
    (hruns : c.runs count start limit = .ok runs)
    (hsummary : summary localZone c.source runs = .ok ("At " ++ clock ++ " every day.")) :
    runs.head?.map Instant.clockText = some clock ∧
      (∀ t : Instant, t.clockText = clock → c.schedule.matchesInstant t = true) ∧
      ((∀ t : Instant, c.schedule.matchesInstant t = true → t.clockText = clock) ↔
        c.schedule.HasFixedTime) := by
  have hlength := (runList_of_runs hruns).length
  obtain ⟨first, rest, rfl⟩ : ∃ first rest, runs = first :: rest :=
    List.exists_cons_of_length_pos (by omega)
  have hfires := matchesInstant_of_mem_runs hruns List.mem_cons_self
  obtain ⟨-, f₁, f₂, f₃, f₄, f₅, hspread, -⟩ := parse_eq_ok_iff.mp hc
  have hwords := Text.words_of_spread hspread
  obtain ⟨hdaily, rfl⟩ := clock_of_summary_eq ((words_source hc).trans hwords) hsummary
  have hdays := hasAllDays_of_readsDaily hc hwords hdaily
  refine ⟨rfl, fun t ht => ?_, hdays.forall_clockText_eq_iff (inDomains_of_parse hc) hfires⟩
  obtain ⟨hhour, hminute⟩ := Instant.clockText_eq_iff.mp ht
  rw [hdays.matchesInstant_iff] at hfires ⊢
  rwa [hhour, hminute]

/-- An expression with these minutes and hours on every day. -/
def everyDayAt (source : String) (minutes hours : List ℤ) : Cron where
  source := source
  schedule :=
    { minute := .ofList minutes
      hour := .ofList hours
      dayOfMonth := .ofList (interval 1 31)
      month := .ofList (interval 1 12)
      dayOfWeek := .ofList (interval 0 6) }

/-- What is done at five past four is done at no other time. -/
theorem daily_summary_true_iff_fixed :
    parse "5 4 * * *" = .ok (everyDayAt "5 4 * * *" [5] [4]) ∧
      ∃ runs, (everyDayAt "5 4 * * *" [5] [4]).runs 1
          { minute := Instant.minuteNumber ⟨2024, 1, 2⟩ 4 4, minute_lt := by decide } twoYears = .ok runs ∧
        summary .utc "5 4 * * *" runs = .ok "At 04:05 every day." ∧
        ∀ t : Instant, (everyDayAt "5 4 * * *" [5] [4]).schedule.matchesInstant t = true →
          t.clockText = "04:05" := by
  have hparse : parse "5 4 * * *" = .ok (everyDayAt "5 4 * * *" [5] [4]) := rfl
  obtain ⟨runs, hruns, hsummary⟩ : ∃ runs, (everyDayAt "5 4 * * *" [5] [4]).runs 1
        { minute := Instant.minuteNumber ⟨2024, 1, 2⟩ 4 4, minute_lt := by decide } twoYears = .ok runs ∧
      summary .utc "5 4 * * *" runs = .ok "At 04:05 every day." := ⟨_, rfl, rfl⟩
  have hfixed : (everyDayAt "5 4 * * *" [5] [4]).schedule.HasFixedTime := by
    refine ⟨⟨5, fun v => ?_⟩, ⟨4, fun v => ?_⟩⟩
    · rw [everyDayAt, FieldSet.mem_ofList, List.mem_singleton]
    · rw [everyDayAt, FieldSet.mem_ofList, List.mem_singleton]
  have hclock : "At 04:05 every day." = "At " ++ "04:05" ++ " every day." := by decide
  exact ⟨hparse, runs, hruns, hsummary,
    (daily_summary_true_iff hparse (Int.le_refl 1) hruns (hclock ▸ hsummary)).2.2.mpr hfixed⟩

/-- **A summary may leave out times of day.** An expression that fires in every quarter of an hour from nine to
ten is summed up by its first time alone. -/
theorem daily_summary_leaves_out_quarters :
    parse "*/15 9 * * *" = .ok (everyDayAt "*/15 9 * * *" [0, 15, 30, 45] [9]) ∧
      ∃ runs, (everyDayAt "*/15 9 * * *" [0, 15, 30, 45] [9]).runs 1
          { minute := Instant.minuteNumber ⟨2024, 1, 1⟩ 8 59, minute_lt := by decide } twoYears = .ok runs ∧
        summary .utc "*/15 9 * * *" runs = .ok "At 09:00 every day." ∧
        ¬ ∀ t : Instant, (everyDayAt "*/15 9 * * *" [0, 15, 30, 45] [9]).schedule.matchesInstant t = true →
          t.clockText = "09:00" := by
  refine ⟨rfl, _, rfl, rfl, fun honly => ?_⟩
  have hquarter := honly { minute := Instant.minuteNumber ⟨2024, 1, 1⟩ 9 15, minute_lt := by decide }
    (by decide)
  exact absurd hquarter (by decide)

end Cron

end CronPreview
