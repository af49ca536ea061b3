/-
Lists of runs page by page.

* `Schedule.RunList.exists_cursor`: after every list of runs the search can go on;
* `Schedule.nextRuns_add_of_ok`, `Schedule.nextRuns_add_of_error`: a longer list goes on from a shorter one as
  if it were searched for from there, and fails when the shorter one does;
* `Cron.runs_add_eq_pages`: two pages of runs make one list, which loses nothing and repeats nothing.
-/
import CronPreview.Proofs.Schedule.Runs

namespace CronPreview

namespace Schedule

variable {s : Schedule} {start cursor : Instant} {limit : ℤ} {m : ℕ} {rs : List Instant}

/-- After every list of runs the search can go on, as no run is the last minute of the calendar. -/
lemma RunList.exists_cursor (h : s.RunList start limit m rs) :
    ∃ cursor, start.cursorAfter? rs = some cursor := by
  rw [Instant.cursorAfter?]
  cases hlast : rs.getLast? with
  | none => exact ⟨start, rfl⟩
  | some r =>
      have hr := h.not_last r (List.mem_of_getLast? hlast)
      exact Option.ne_none_iff_exists'.mp fun hnone => hr (Instant.roundUp_eq_none_iff.mp hnone)

/-- Where a list of runs fails, a longer list fails in the same way. -/
lemma nextRuns_add_of_error {e : SearchStop} (h : s.nextRuns limit start m = .error e) (n : ℕ) :
    s.nextRuns limit start (m + n) = .error e := by
  obtain ⟨i, rs, cursor, hi, hstop⟩ := nextRuns_eq_error_iff.mp h
  exact nextRuns_eq_error_iff.mpr ⟨i, rs, cursor, by omega, hstop⟩

/-- **A longer list goes on where a shorter one ends**, as if it were searched for from there. -/
theorem nextRuns_add_of_ok (h : s.nextRuns limit start m = .ok rs)
    (hcursor : start.cursorAfter? rs = some cursor) (n : ℕ) :
    s.nextRuns limit start (m + n) = (s.nextRuns limit cursor n).map (rs ++ ·) := by
  induction m generalizing start rs with
  | zero =>
      cases h
      obtain rfl : start = cursor := Option.some.inj hcursor
      rw [Nat.zero_add]
      cases s.nextRuns limit start n <;> rfl
  | succ m ih =>
      obtain ⟨t, next, ts, rfl, hrun, hnext, hts⟩ := runList_succ_iff.mp (nextRuns_eq_ok_iff.mp h)
      rw [Instant.cursorAfter?_cons hnext] at hcursor
      rw [Nat.add_right_comm, nextRuns_of_some (m + n) hrun hnext,
        ih (nextRuns_eq_ok_iff.mpr hts) hcursor]
      cases s.nextRuns limit cursor n <;> rfl

end Schedule

namespace Cron

variable {c : Cron} {start cursor : Instant} {limit : ℤ} {m : ℕ} {rs : List Instant}

lemma runs_add_of_error {f : Failure} (h : c.runs m start limit = .error f) (n : ℕ) :
    c.runs (m + n : ℕ) start limit = .error f := by
  rw [runs_natCast, Except.mapError_eq_error_iff] at h ⊢
  obtain ⟨e, he, rfl⟩ := h
  exact ⟨e, Schedule.nextRuns_add_of_error he n, rfl⟩

lemma runs_add_of_ok (h : c.runs m start limit = .ok rs)
    (hcursor : start.cursorAfter? rs = some cursor) (n : ℕ) :
    c.runs (m + n : ℕ) start limit = (c.runs n cursor limit).map (rs ++ ·) := by
  rw [runs_natCast, Except.mapError_eq_ok_iff] at h
  rw [runs_natCast, runs_natCast, Schedule.nextRuns_add_of_ok h hcursor n]
  cases c.schedule.nextRuns limit cursor n <;> rfl

/-- A list of runs has the length that is asked for, and the search goes on after it: where it began if there
are none, and else one minute past the last one. -/
lemma exists_cursor (h : c.runs m start limit = .ok rs) :
    rs.length = m ∧ ∃ cursor, start.cursorAfter? rs = some cursor ∧ (m = 0 → cursor = start) ∧
      ∀ r ∈ rs.getLast?, cursor.minute = r.minute + 1 ∧ cursor.second = 0 ∧
        cursor.microsecond = 0 ∧ cursor.zone = r.zone := by
  have hlist := runs_eq_ok_iff.mp h
  obtain ⟨cursor, hcursor⟩ := hlist.exists_cursor
  refine ⟨hlist.length, cursor, hcursor, fun hm => ?_, fun r hr => ?_⟩
  · obtain rfl : rs = [] := List.length_eq_zero_iff.mp (hlist.length.trans hm)
    exact (Option.some.inj hcursor).symm
  · rw [Instant.cursorAfter?, Option.mem_def.mp hr] at hcursor
    exact Instant.atMinute?_eq_some_iff.mp hcursor

/-- **Two pages of runs make one list.** The next `m + n` runs can be listed exactly when the next `m` runs
can be listed, and `n` more from where the search goes on after them: at the start if `m` is zero, and else one
minute past the last of the `m` runs. The list of them is the first page, which has `m` runs, with the second one
after it. When there is no list, the failure is that of the first page, or of the second one if the first has
none. -/
theorem runs_add_eq_pages (c : Cron) (start : Instant) (limit : ℤ) (m n : ℕ) :
    (∀ ts, c.runs (m + n : ℕ) start limit = .ok ts ↔ ∃ rs cursor ss, c.runs m start limit = .ok rs ∧
      start.cursorAfter? rs = some cursor ∧ c.runs n cursor limit = .ok ss ∧ rs ++ ss = ts) ∧
    (∀ f, c.runs (m + n : ℕ) start limit = .error f ↔ c.runs m start limit = .error f ∨
      ∃ rs cursor, c.runs m start limit = .ok rs ∧ start.cursorAfter? rs = some cursor ∧
        c.runs n cursor limit = .error f) ∧
    ∀ rs, c.runs m start limit = .ok rs → rs.length = m ∧ ∃ cursor, start.cursorAfter? rs = some cursor ∧
      (m = 0 → cursor = start) ∧
      ∀ r ∈ rs.getLast?, cursor.minute = r.minute + 1 ∧ cursor.second = 0 ∧
        cursor.microsecond = 0 ∧ cursor.zone = r.zone := by
  refine ⟨fun ts => ?_, fun f => ?_, fun rs hrs => exists_cursor hrs⟩
  · cases hm : c.runs m start limit with
    | error f =>
        rw [runs_add_of_error hm n]
        simp
    | ok rs =>
        obtain ⟨-, cursor, hcursor, -⟩ := exists_cursor hm
        rw [runs_add_of_ok hm hcursor n, Except.map_eq_ok_iff]
        simp [hcursor]
  · cases hm : c.runs m start limit with
    | error f =>
        rw [runs_add_of_error hm n]
        simp
    | ok rs =>
        obtain ⟨-, cursor, hcursor, -⟩ := exists_cursor hm
        rw [runs_add_of_ok hm hcursor n, Except.map_eq_error_iff]
        simp [hcursor]

end Cron

end CronPreview
