/-
Only the minute that a wall clock shows matters to a search for runs.

* `Instant.ShowsSame`: two clocks show the same date, hour and minute, whatever their seconds and their zones;
  `Instant.showsSame_iff` tells this by the number of the minute;
* `Schedule.searchFrom_related`, `Schedule.nextRuns_related`: two searches whose candidates show the same minute
  test the same minutes, find runs that show the same, and stop for the same reason;
* `Cron.runs_depend_on_shown_minute`: what this means for the runs of an expression.
-/
import CronPreview.Proofs.Schedule.Runs

namespace CronPreview

open Except (LiftRel)

/-! ### What two clocks show -/

namespace Instant

/-- Two clocks show the same year, month, day, hour and minute. Their seconds, their microseconds and their
zones may differ. -/
structure ShowsSame (t u : Instant) : Prop where
  date : t.date = u.date
  hour : t.hourOfDay = u.hourOfDay
  minute : t.minuteOfHour = u.minuteOfHour

/-- The instant is a whole minute on the clock of `start`. -/
structure IsWholeOn (start t : Instant) : Prop where
  second : t.second = 0
  microsecond : t.microsecond = 0
  zone : t.zone = start.zone

variable {t u : Instant}

/-- Clocks show the same when they are in the same whole minute of the calendar. -/
theorem showsSame_iff : t.ShowsSame u ↔ t.minute = u.minute := by
  have hnumber : ∀ v : Instant, minuteNumber v.date v.hourOfDay v.minuteOfHour = v.minute :=
    fun v => minuteNumber_faceAt v.minute
  refine ⟨fun h => ?_, fun h => ?_⟩
  · rw [← hnumber t, ← hnumber u, h.date, h.hour, h.minute]
  · refine ⟨?_, ?_, ?_⟩
    · rw [date, date, h]
    · rw [hourOfDay, hourOfDay, h]
    · rw [minuteOfHour, minuteOfHour, h]

/-- Clocks that show the same go on alike: to minutes that show the same, or to the end of the calendar. -/
lemma ShowsSame.roundUp (h : t.ShowsSame u) : Option.Rel ShowsSame t.roundUp u.roundUp := by
  have hminute := showsSame_iff.mp h
  cases ht : t.roundUp with
  | none =>
      have hu : u.roundUp = none := by
        rw [roundUp_eq_none_iff, ← hminute]
        exact roundUp_eq_none_iff.mp ht
      rw [hu]
      exact .none
  | some t' =>
      cases hu : u.roundUp with
      | none =>
          rw [roundUp_eq_none_iff, ← hminute, ← roundUp_eq_none_iff, ht] at hu
          cases hu
      | some u' =>
          refine .some (showsSame_iff.mpr ?_)
          rw [(atMinute?_eq_some_iff.mp ht).1, (atMinute?_eq_some_iff.mp hu).1, hminute]

end Instant

/-! ### Two searches -/

namespace Schedule

variable {s : Schedule} {start start' : Instant} {limit : ℤ}

lemma matchesInstant_of_showsSame {t u : Instant} (h : t.ShowsSame u) :
    s.matchesInstant t = s.matchesInstant u := by
  rw [matchesInstant, matchesInstant, Instant.showsSame_iff.mp h]

/-- Two searches have stopped for the same reason, though they may have begun at different instants. -/
inductive StopsAlike : SearchStop → SearchStop → Prop
  | calendarEnd : StopsAlike .calendarEnd .calendarEnd
  | limitReached (limit : ℤ) (start start' : Instant) :
      StopsAlike (.limitReached limit start) (.limitReached limit start')

/-- Searches whose candidates show the same test the same minutes one by one. -/
theorem searchFrom_related {n : ℕ} {o o' : Option Instant} (h : Option.Rel Instant.ShowsSame o o') :
    LiftRel StopsAlike Instant.ShowsSame (s.searchFrom limit start n o)
      (s.searchFrom limit start' n o') := by
  induction n generalizing o o' with
  | zero =>
      cases h with
      | none => exact .error .calendarEnd
      | some _ => exact .error (.limitReached limit start start')
  | succ n ih =>
      cases h with
      | none => exact .error .calendarEnd
      | @some t u hsame =>
          rw [searchFrom, searchFrom, matchesInstant_of_showsSame hsame]
          by_cases hfires : s.matchesInstant u = true
          · rw [if_pos hfires, if_pos hfires]
            exact .ok hsame
          · rw [if_neg hfires, if_neg hfires]
            exact ih hsame.roundUp

lemma nextRun_related (h : start.ShowsSame start') :
    LiftRel StopsAlike Instant.ShowsSame (s.nextRun start limit) (s.nextRun start' limit) :=
  searchFrom_related h.roundUp

/-- **Searches from clocks that show the same find runs that show the same**, or stop for the same reason. -/
theorem nextRuns_related {n : ℕ} (h : start.ShowsSame start') :
    LiftRel StopsAlike (List.Forall₂ Instant.ShowsSame) (s.nextRuns limit start n)
      (s.nextRuns limit start' n) := by
  induction n generalizing start start' with
  | zero => exact .ok .nil
  | succ n ih =>
      refine (nextRun_related h).bind fun t u hsame => ?_
      -- the advance past the run fails on both clocks or on neither
      generalize ht : t.roundUp = next
      generalize hu : u.roundUp = next'
      have hnext : Option.Rel Instant.ShowsSame next next' := ht ▸ hu ▸ hsame.roundUp
      cases hnext with
      | none => exact .error .calendarEnd
      | some hcursor => exact (ih hcursor).bind fun ts us hrest => .ok (.cons hsame hrest)

end Schedule

/-! ### Two lists of runs -/

/-- A user is told the same about both failures. -/
structure Failure.ToldAlike (f f' : Failure) : Prop where
  kind : f.kind? = f'.kind?
  token : f.token? = f'.token?
  message : f.message = f'.message

/-- What is told about a search does not depend on where it began. -/
lemma Failure.toldAlike_ofSearch (source : String) {e e' : SearchStop} (h : Schedule.StopsAlike e e') :
    ToldAlike (ofSearch source e) (ofSearch source e') := by
  cases h with
  | calendarEnd => exact ⟨rfl, rfl, rfl⟩
  | limitReached limit start start' =>
      rw [ofSearch, ofSearch]
      cases WritableInt.ofInt? limit with
      | none => exact ⟨rfl, rfl, rfl⟩
      | some w => exact ⟨rfl, rfl, rfl⟩

namespace Cron

lemma isWholeOn_of_mem_runs {c : Cron} {count limit : ℤ} {start r : Instant} {rs : List Instant}
    (h : c.runs count start limit = .ok rs) (hr : r ∈ rs) : start.IsWholeOn r := by
  obtain ⟨hsecond, hmicrosecond, hzone⟩ := (runList_of_runs h).clock r hr
  exact ⟨hsecond, hmicrosecond, hzone⟩

lemma runs_related (c : Cron) (count limit : ℤ) {start start' : Instant} (h : start.ShowsSame start') :
    LiftRel Failure.ToldAlike (List.Forall₂ Instant.ShowsSame) (c.runs count start limit)
      (c.runs count start' limit) := by
  by_cases hcount : count < 0
  · rw [runs, runs, Schedule.runs, Schedule.runs, if_pos hcount, if_pos hcount]
    exact .error ⟨rfl, rfl, rfl⟩
  · obtain ⟨n, rfl⟩ := Int.eq_ofNat_of_zero_le (Int.not_lt.mp hcount)
    rw [runs_natCast, runs_natCast]
    exact (Schedule.nextRuns_related h).mapError fun _ _ => Failure.toldAlike_ofSearch c.source

/-- **Only the minute that the clock shows matters.** From two starts that show the same year, month, day, hour
and minute, as many runs are listed; they show the same one by one, and each list holds whole minutes on the clock
of its own start. Or else there is no list from either start, and the same is told about both failures. An
expression also matches both starts or neither. -/
theorem runs_depend_on_shown_minute (c : Cron) (count limit : ℤ) {start start' : Instant}
    (h : start.ShowsSame start') :
    LiftRel Failure.ToldAlike
        (fun rs rs' => List.Forall₂ Instant.ShowsSame rs rs' ∧ (∀ r ∈ rs, start.IsWholeOn r) ∧
          ∀ r ∈ rs', start'.IsWholeOn r)
        (c.runs count start limit) (c.runs count start' limit) ∧
      c.schedule.matchesInstant start = c.schedule.matchesInstant start' := by
  have hruns := runs_related c count limit h
  exact ⟨hruns.and_ok (fun _ hrs r hr => isWholeOn_of_mem_runs hrs hr)
    (fun _ hrs r hr => isWholeOn_of_mem_runs hrs hr), Schedule.matchesInstant_of_showsSame h⟩

/-- Two minutes before nine o'clock on a leap day. -/
def leapDayMorning (second : Fin 60) (microsecond : Fin 1000000) (zone : Option Zone) : Instant where
  minute := Instant.minuteNumber ⟨2024, 2, 29⟩ 8 58
  minute_lt := by decide
  second := second
  second_lt := second.isLt
  microsecond := microsecond
  microsecond_lt := microsecond.isLt
  zone := zone

/-- A clock in India and a local one list the same two runs, each in its own zone. -/
theorem runs_depend_on_shown_minute_india :
    ∃ c rs rs', parse "0,30 9 * * *" = .ok c ∧
      c.runs 2 (leapDayMorning 59 250000 (some ⟨19800, "IST"⟩)) twoYears = .ok rs ∧
      c.runs 2 (leapDayMorning 0 0 none) twoYears = .ok rs' ∧
      List.Forall₂ Instant.ShowsSame rs rs' ∧
      (∀ r ∈ rs, (leapDayMorning 59 250000 (some ⟨19800, "IST"⟩)).IsWholeOn r) ∧
      ∀ r ∈ rs', (leapDayMorning 0 0 none).IsWholeOn r := by
  obtain ⟨c, rs, rs', hparse, hrs, hrs'⟩ : ∃ c rs rs', parse "0,30 9 * * *" = .ok c ∧
      c.runs 2 (leapDayMorning 59 250000 (some ⟨19800, "IST"⟩)) twoYears = .ok rs ∧
      c.runs 2 (leapDayMorning 0 0 none) twoYears = .ok rs' := ⟨_, _, _, rfl, rfl, rfl⟩
  have hsame : (leapDayMorning 59 250000 (some ⟨19800, "IST"⟩)).ShowsSame (leapDayMorning 0 0 none) :=
    ⟨rfl, rfl, rfl⟩
  have hruns := (runs_depend_on_shown_minute c 2 twoYears hsame).1
  rw [hrs, hrs'] at hruns
  cases hruns with
  | ok hlists => exact ⟨c, rs, rs', hparse, hrs, hrs', hlists⟩

end Cron

end CronPreview
