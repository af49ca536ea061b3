/-
Lists of runs: which minutes are in them, and when there is no list.

* `Schedule.IsFirstFrom`, `Schedule.nextRun_eq_ok_iff_isFirstFrom`: the next run in terms of minutes;
* `Schedule.Greedy`: minutes that are chosen one by one, each the first match that is at least two
  minutes after the one before; what this leaves out is `Schedule.Greedy.mem_or_pred_mem`;
* `Schedule.RunList`, `Schedule.nextRuns_eq_ok_iff`: the list of the next runs, and when there is one;
* `Schedule.nextRuns_eq_error_iff`: the list fails with the first search or advance that does;
* `Cron.exists_exhausted_of_runs`, `Cron.runs_of_longLimit`: a list that fails is told of an exhausted search,
  unless the limit is too long to be written;
* `Cron.runs_eq_greedy_choice`: all of this about the runs of an expression.
-/
import Mathlib.Data.List.Chain
import CronPreview.Proofs.Schedule.FirstMatch

namespace CronPreview

namespace Instant

/-- Where the search goes on after these runs: at `start` if there are none, and else one minute past
the last one. -/
def cursorAfter? (start : Instant) (rs : List Instant) : Option Instant :=
  match rs.getLast? with
  | none => some start
  | some r => r.roundUp

/-- The first run makes no difference to where the search goes on after later ones. -/
lemma cursorAfter?_cons {start t cursor : Instant} (h : t.roundUp = some cursor)
    (rs : List Instant) : start.cursorAfter? (t :: rs) = cursor.cursorAfter? rs := by
  rw [cursorAfter?, cursorAfter?, List.getLast?_cons]
  cases rs.getLast? with
  | none => exact h
  | some r => rfl

end Instant

namespace Schedule

variable {s : Schedule} {start t : Instant} {limit : ℤ}

/-! ### The next run in terms of minutes -/

/-- `r` is the first minute of the calendar from the minute `m` on at which the schedule fires. -/
structure IsFirstFrom (s : Schedule) (m r : ℕ) : Prop where
  from_le : m ≤ r
  le_last : r ≤ lastMinute
  fires : s.firesAt r = true
  least : ∀ i, m ≤ i → i < r → s.firesAt i = false

/-- The next run is the first match after the minute of `start`, on the same clock, if the limit does
not forbid it. -/
theorem nextRun_eq_ok_iff_isFirstFrom :
    s.nextRun start limit = .ok t ↔
      s.IsFirstFrom (start.minute + 1) t.minute ∧ (t.minute : ℤ) ≤ start.minute + limit
        ∧ t.second = 0 ∧ t.microsecond = 0 ∧ t.zone = start.zone := by
  have hlast := t.minute_le_lastMinute
  rw [nextRun_eq_ok_iff]
  constructor
  · rintro ⟨k, hk, hcandidate, hfires, hleast⟩
    obtain ⟨hminute, hclock⟩ := Instant.candidate?_eq_some_iff.mp hcandidate
    refine ⟨⟨by omega, hlast, hfires, fun i hmi hir => ?_⟩, by omega, hclock⟩
    obtain ⟨j, rfl⟩ : ∃ j, i = start.minute + 1 + j := ⟨i - (start.minute + 1), by omega⟩
    have hj : (start.candidate? j).isSome = true := by
      rw [Instant.isSome_candidate?_iff, Instant.candidateCount]
      omega
    obtain ⟨u, hu⟩ := Option.isSome_iff_exists.mp hj
    rw [← (Instant.candidate?_eq_some_iff.mp hu).1]
    exact hleast j u (by omega) hu
  · rintro ⟨⟨hle, -, hfires, hleast⟩, hlimit, hclock⟩
    refine ⟨t.minute - (start.minute + 1), by omega,
      Instant.candidate?_eq_some_iff.mpr ⟨by omega, hclock⟩, hfires, fun j u hj hu => ?_⟩
    have hminute := (Instant.candidate?_eq_some_iff.mp hu).1
    exact hleast u.minute (by omega) (by omega)

/-! ### Greedy lists of minutes -/

/-- The minutes of the list are chosen one after the other: the first match from the minute `m` on,
and then always the first match that is at least two minutes after the one before. -/
inductive Greedy (s : Schedule) : ℕ → List ℕ → Prop
  | nil (m : ℕ) : Greedy s m []
  | cons {m r : ℕ} {rs : List ℕ} : s.IsFirstFrom m r → Greedy s (r + 2) rs → Greedy s m (r :: rs)

namespace Greedy

variable {m : ℕ} {rs : List ℕ}

lemma from_le (h : s.Greedy m rs) : ∀ r ∈ rs, m ≤ r := by
  induction h with
  | nil m => simp
  | cons hfirst _ ih =>
      intro r hr
      have := hfirst.from_le
      rcases List.mem_cons.mp hr with rfl | hr
      · exact this
      · have := ih r hr
        omega

lemma fires (h : s.Greedy m rs) : ∀ r ∈ rs, s.firesAt r = true := by
  induction h with
  | nil m => simp
  | cons hfirst _ ih =>
      intro r hr
      rcases List.mem_cons.mp hr with rfl | hr
      · exact hfirst.fires
      · exact ih r hr

/-- Nothing fires before the first chosen minute. -/
lemma firesAt_before (h : s.Greedy m rs) {r i : ℕ} (hr : rs.head? = some r) (hmi : m ≤ i)
    (hir : i < r) : s.firesAt i = false := by
  cases h with
  | nil => cases hr
  | cons hfirst _ =>
      obtain rfl := Option.some.inj hr
      exact hfirst.least i hmi hir

/-- Between two chosen minutes nothing fires, but for the minute after the first of them. -/
lemma firesAt_between (h : s.Greedy m rs) {k r r' i : ℕ} (hr : rs[k]? = some r)
    (hr' : rs[k + 1]? = some r') (hri : r + 1 < i) (hir : i < r') : s.firesAt i = false := by
  induction h generalizing k with
  | nil m => cases hr
  | cons _ hrest ih =>
      cases k with
      | zero =>
          obtain rfl := Option.some.inj hr
          exact hrest.firesAt_before (List.head?_eq_getElem? ▸ hr') (by omega) hir
      | succ k => exact ih hr hr'

/-- Chosen minutes are at least two minutes apart. -/
lemma pairwise (h : s.Greedy m rs) : rs.Pairwise fun a b => a + 2 ≤ b := by
  induction h with
  | nil m => exact List.Pairwise.nil
  | cons _ hrest ih => exact List.pairwise_cons.mpr ⟨hrest.from_le, ih⟩

/-- A match that is not later than a chosen minute is chosen itself or directly follows a chosen
minute. -/
lemma mem_or_pred_mem (h : s.Greedy m rs) {i : ℕ} (hmi : m ≤ i) (hi : s.firesAt i = true)
    (hlast : ∃ r ∈ rs, i ≤ r) : i ∈ rs ∨ ∃ r ∈ rs, i = r + 1 := by
  induction h with
  | nil m => simp at hlast
  | @cons m r rs hfirst hrest ih =>
      rcases Nat.lt_trichotomy i r with hlt | rfl | hgt
      · rw [hfirst.least i hmi hlt] at hi
        cases hi
      · exact Or.inl List.mem_cons_self
      · by_cases hnext : i = r + 1
        · exact Or.inr ⟨r, List.mem_cons_self, hnext⟩
        · have hlater : ∃ q ∈ rs, i ≤ q := by
            obtain ⟨q, hq, hiq⟩ := hlast
            rcases List.mem_cons.mp hq with rfl | hq
            · omega
            · exact ⟨q, hq, hiq⟩
          rcases ih (by omega) hlater with hmem | ⟨q, hq, hiq⟩
          · exact Or.inl (List.mem_cons_of_mem r hmem)
          · exact Or.inr ⟨q, List.mem_cons_of_mem r hq, hiq⟩

end Greedy

/-! ### Lists of runs -/

/-- The list has `n` entries, which are whole minutes on the clock of `start` and chosen greedily.
The first one is at most `limit` minutes after `start`, each other one at most `limit + 1` minutes
after the one before it, and none is the last minute of the calendar. -/
structure RunList (s : Schedule) (start : Instant) (limit : ℤ) (n : ℕ) (rs : List Instant) :
    Prop where
  length : rs.length = n
  clock : ∀ r ∈ rs, r.second = 0 ∧ r.microsecond = 0 ∧ r.zone = start.zone
  greedy : s.Greedy (start.minute + 1) (rs.map Instant.minute)
  first_le : ∀ r ∈ rs.head?, (r.minute : ℤ) ≤ start.minute + limit
  next_le : rs.IsChain fun a b => (b.minute : ℤ) ≤ a.minute + (limit + 1)
  not_last : ∀ r ∈ rs, r.minute ≠ lastMinute

/-- A list of runs begins with the next run, and goes on from one minute past it. -/
lemma runList_succ_iff {n : ℕ} {rs : List Instant} :
    s.RunList start limit (n + 1) rs ↔ ∃ t cursor ts, rs = t :: ts ∧
      s.nextRun start limit = .ok t ∧ t.roundUp = some cursor ∧ s.RunList cursor limit n ts := by
  constructor
  · rintro ⟨hlength, hclock, hgreedy, hfirst, hnext, hlast⟩
    obtain ⟨t, ts, rfl⟩ := List.exists_cons_of_length_eq_add_one hlength
    rw [List.map_cons] at hgreedy
    cases hgreedy with
    | cons hmatch hrest =>
        have ht : t.roundUp ≠ none := fun h =>
          hlast t List.mem_cons_self (Instant.roundUp_eq_none_iff.mp h)
        obtain ⟨cursor, hcursor⟩ := Option.ne_none_iff_exists'.mp ht
        obtain ⟨hminute, -, -, hzone⟩ := Instant.atMinute?_eq_some_iff.mp hcursor
        obtain ⟨hthen, hchain⟩ := List.isChain_cons.mp hnext
        have hclockt := hclock t List.mem_cons_self
        refine ⟨t, cursor, ts, rfl, nextRun_eq_ok_iff_isFirstFrom.mpr
          ⟨hmatch, hfirst t rfl, hclockt⟩, hcursor, by simpa using hlength, fun r hr => ?_, ?_,
          fun r hr => ?_, hchain, fun r hr => hlast r (List.mem_cons_of_mem t hr)⟩
        · rw [hzone, hclockt.2.2]
          exact hclock r (List.mem_cons_of_mem t hr)
        · rw [hminute]
          exact hrest
        · have := hthen r hr
          omega
  · rintro ⟨t, cursor, ts, rfl, hrun, hcursor, hlength, hclock, hgreedy, hfirst, hnext, hlast⟩
    obtain ⟨hmatch, hlimit, hclockt⟩ := nextRun_eq_ok_iff_isFirstFrom.mp hrun
    obtain ⟨hminute, -, -, hzone⟩ := Instant.atMinute?_eq_some_iff.mp hcursor
    rw [hminute] at hgreedy hfirst
    refine ⟨by rw [List.length_cons, hlength], fun r hr => ?_, .cons hmatch hgreedy,
      fun r hr => ?_, List.isChain_cons.mpr ⟨fun r hr => ?_, hnext⟩, fun r hr => ?_⟩
    · rcases List.mem_cons.mp hr with rfl | hr
      · exact hclockt
      · rw [← hclockt.2.2, ← hzone]
        exact hclock r hr
    · obtain rfl : t = r := by simpa using hr
      exact hlimit
    · have := hfirst r hr
      omega
    · rcases List.mem_cons.mp hr with rfl | hr
      · intro hr
        rw [Instant.roundUp_eq_none_iff.mpr hr] at hcursor
        cases hcursor
      · exact hlast r hr

/-! ### The list, one run after the other -/

lemma nextRuns_of_error {e : SearchStop} (n : ℕ) (h : s.nextRun start limit = .error e) :
    s.nextRuns limit start (n + 1) = .error e := by
  rw [nextRuns, h]
  rfl

lemma nextRuns_of_last (n : ℕ) (h : s.nextRun start limit = .ok t) (ht : t.roundUp = none) :
    s.nextRuns limit start (n + 1) = .error .calendarEnd := by
  rw [nextRuns, h]
  simp only [bind, Except.bind, ht]
  rfl

lemma nextRuns_of_some {cursor : Instant} (n : ℕ) (h : s.nextRun start limit = .ok t)
    (ht : t.roundUp = some cursor) :
    s.nextRuns limit start (n + 1) = (s.nextRuns limit cursor n).map (t :: ·) := by
  rw [nextRuns, h]
  simp only [bind, Except.bind, ht]
  cases s.nextRuns limit cursor n <;> rfl

/-- **There is a list of runs exactly when the greedy choice makes one.** -/
theorem nextRuns_eq_ok_iff {n : ℕ} {rs : List Instant} :
    s.nextRuns limit start n = .ok rs ↔ s.RunList start limit n rs := by
  induction n generalizing start rs with
  | zero =>
      rw [nextRuns, Except.ok.injEq]
      constructor
      · rintro rfl
        exact ⟨rfl, by simp, .nil _, by simp, .nil, by simp⟩
      · exact fun h => (List.length_eq_zero_iff.mp h.length).symm
  | succ n ih =>
      rw [runList_succ_iff]
      constructor
      · intro h
        cases hrun : s.nextRun start limit with
        | error e =>
            rw [nextRuns_of_error n hrun] at h
            cases h
        | ok t =>
            cases hcursor : t.roundUp with
            | none =>
                rw [nextRuns_of_last n hrun hcursor] at h
                cases h
            | some cursor =>
                rw [nextRuns_of_some n hrun hcursor, Except.map_eq_ok_iff] at h
                obtain ⟨ts, hts, rfl⟩ := h
                exact ⟨t, cursor, ts, rfl, rfl, hcursor, ih.mp hts⟩
      · rintro ⟨t, cursor, ts, rfl, hrun, hcursor, hts⟩
        rw [nextRuns_of_some n hrun hcursor, ih.mpr hts]
        rfl

/-- The search from `cursor` fails with `e`, or the advance past what it finds does. -/
def StopsAt (s : Schedule) (limit : ℤ) (cursor : Instant) (e : SearchStop) : Prop :=
  s.nextRun cursor limit = .error e ∨
    ∃ t, s.nextRun cursor limit = .ok t ∧ t.minute = lastMinute ∧ e = .calendarEnd

/-- **A list fails with the first search or advance that fails**, after the runs before it. -/
theorem nextRuns_eq_error_iff {n : ℕ} {e : SearchStop} :
    s.nextRuns limit start n = .error e ↔ ∃ i rs cursor, i < n ∧
      s.nextRuns limit start i = .ok rs ∧ start.cursorAfter? rs = some cursor ∧
      s.StopsAt limit cursor e := by
  induction n generalizing start with
  | zero => simp [nextRuns]
  | succ n ih =>
      constructor
      · intro h
        cases hrun : s.nextRun start limit with
        | error e' =>
            rw [nextRuns_of_error n hrun] at h
            cases h
            exact ⟨0, [], start, Nat.succ_pos n, rfl, rfl, Or.inl hrun⟩
        | ok t =>
            cases hcursor : t.roundUp with
            | none =>
                rw [nextRuns_of_last n hrun hcursor] at h
                cases h
                exact ⟨0, [], start, Nat.succ_pos n, rfl, rfl,
                  Or.inr ⟨t, hrun, Instant.roundUp_eq_none_iff.mp hcursor, rfl⟩⟩
            | some c =>
                rw [nextRuns_of_some n hrun hcursor, Except.map_eq_error_iff] at h
                obtain ⟨i, rs, cursor, hi, hrs, hgo, hstop⟩ := ih.mp h
                refine ⟨i + 1, t :: rs, cursor, by omega, ?_, ?_, hstop⟩
                · rw [nextRuns_of_some i hrun hcursor, hrs]
                  rfl
                · rw [Instant.cursorAfter?_cons hcursor, hgo]
      · rintro ⟨i, rs, cursor, hi, hrs, hgo, hstop⟩
        cases i with
        | zero =>
            cases hrs
            cases hgo
            rcases hstop with hfail | ⟨t, ht, hlast, rfl⟩
            · exact nextRuns_of_error n hfail
            · exact nextRuns_of_last n ht (Instant.roundUp_eq_none_iff.mpr hlast)
        | succ i =>
            rw [nextRuns_eq_ok_iff, runList_succ_iff] at hrs
            obtain ⟨t, c, ts, rfl, hrun, hcursor, hts⟩ := hrs
            rw [Instant.cursorAfter?_cons hcursor] at hgo
            rw [nextRuns_of_some n hrun hcursor, Except.map_eq_error_iff]
            exact ih.mpr ⟨i, ts, cursor, by omega, nextRuns_eq_ok_iff.mpr hts, hgo, hstop⟩

end Schedule

namespace Cron

/-- A number of runs that is not negative is never the reason why there is no list. -/
lemma runs_natCast (c : Cron) (n : ℕ) (start : Instant) (limit : ℤ) :
    c.runs n start limit =
      (c.schedule.nextRuns limit start n).mapError (.ofSearch c.source) := by
  have hn : ¬ (n : ℤ) < 0 := by omega
  rw [runs, Schedule.runs, if_neg hn, Int.toNat_natCast]
  cases c.schedule.nextRuns limit start n <;> rfl

lemma runs_eq_ok_iff {c : Cron} {n : ℕ} {start : Instant} {limit : ℤ} {rs : List Instant} :
    c.runs n start limit = .ok rs ↔ c.schedule.RunList start limit n rs := by
  rw [runs_natCast, Except.mapError_eq_ok_iff, Schedule.nextRuns_eq_ok_iff]

/-- Where there are runs, there are as many as were asked for. -/
lemma runList_of_runs {c : Cron} {count : ℤ} {start : Instant} {limit : ℤ} {rs : List Instant}
    (h : c.runs count start limit = .ok rs) :
    c.schedule.RunList start limit count.toNat rs := by
  rw [runs, Except.mapError_eq_ok_iff, Schedule.runs] at h
  split at h
  · cases h
  · exact Schedule.nextRuns_eq_ok_iff.mp (Except.mapError_eq_ok_iff.mp h)

lemma exists_runList {c : Cron} {count : ℤ} {start : Instant} {limit : ℤ} {rs : List Instant}
    (h : c.runs count start limit = .ok rs) : ∃ n, c.schedule.RunList start limit n rs :=
  ⟨count.toNat, runList_of_runs h⟩

/-- An expression fires at each of its runs. -/
lemma matchesInstant_of_mem_runs {c : Cron} {count : ℤ} {start : Instant} {limit : ℤ}
    {rs : List Instant} (h : c.runs count start limit = .ok rs) {r : Instant} (hr : r ∈ rs) :
    c.schedule.matchesInstant r = true :=
  (runList_of_runs h).greedy.fires r.minute (List.mem_map_of_mem hr)

/-- Unless the limit is a negative number of too many digits, the failure of a list is told as an exhausted
search. -/
lemma exists_exhausted_of_runs {c : Cron} {n : ℕ} {start : Instant} {limit : ℤ} {f : Failure}
    (hlow : -10 ^ Numeral.maxDigits < limit) (h : c.runs n start limit = .error f) :
    ∃ e, f = .exhausted c.source e := by
  rw [runs_natCast, Except.mapError_eq_error_iff] at h
  obtain ⟨e, he, rfl⟩ := h
  obtain ⟨-, -, cursor, -, -, -, hfail | ⟨-, -, -, rfl⟩⟩ := Schedule.nextRuns_eq_error_iff.mp he
  · exact exists_exhausted_of_nextRun hlow (nextRun_eq_error_iff.mpr ⟨e, hfail, rfl⟩)
  · exact ⟨_, rfl⟩

/-- With such a limit it is told only where the calendar has come to its end, and then of the end. -/
lemma runs_of_longLimit (c : Cron) (n : ℕ) (start : Instant) {limit : ℤ}
    (h : limit ≤ -10 ^ Numeral.maxDigits) :
    c.runs (n + 1 : ℕ) start limit =
      .error (if start.candidateCount = 0 then .exhausted c.source .calendarEnd else .longInteger) := by
  rw [runs_natCast, Except.mapError_eq_error_iff]
  split
  · next hcount =>
      have hstop : c.schedule.nextRun start limit = .error .calendarEnd := by
        refine Schedule.nextRun_eq_error_iff.mpr ⟨fun j u _ hu => ?_, by rw [if_pos (Or.inl hcount)]⟩
        have := Instant.isSome_candidate?_iff.mp (Option.isSome_of_eq_some hu)
        omega
      exact ⟨_, Schedule.nextRuns_of_error n hstop, rfl⟩
  · next hcount =>
      exact ⟨_, Schedule.nextRuns_of_error n (Schedule.nextRun_of_neg hcount (neg_of_longLimit h)),
        Failure.ofSearch_of_le h⟩

/-- **The next `n` runs are chosen greedily.** There is a list exactly when the greedy choice makes
one whose entries lie within their limits and before the last minute of the calendar. Otherwise what is
told is the failure of the first search, or of the first advance to the minute after a run: the search is
exhausted, but this is not told of a negative limit of more digits than can be written. In a list all
entries fire, they are at least two minutes apart, and the only matches left out are those that directly
follow an entry. -/
theorem runs_eq_greedy_choice (c : Cron) (start : Instant) (n : ℕ) (limit : ℤ) :
    (∀ rs, c.runs n start limit = .ok rs ↔ c.schedule.RunList start limit n rs) ∧
    (∀ f, c.runs n start limit = .error f ↔ ∃ (i : ℕ) (rs : List Instant) (cursor : Instant),
      i < n ∧ c.runs i start limit = .ok rs ∧ start.cursorAfter? rs = some cursor ∧
        (c.nextRun cursor limit = .error f ∨ ∃ t, c.nextRun cursor limit = .ok t ∧
          t.minute = lastMinute ∧ f = .exhausted c.source .calendarEnd)) ∧
    (∀ f, c.runs n start limit = .error f →
      (start.candidateCount = 0 ∨ -10 ^ Numeral.maxDigits < limit →
        f.kind? = some .searchExhausted ∧ f.token? = some c.source) ∧
      (start.candidateCount ≠ 0 → limit ≤ -10 ^ Numeral.maxDigits → f.IsLongInteger)) ∧
    (∀ rs, c.runs n start limit = .ok rs →
      rs.length = n ∧ (∀ r ∈ rs, c.schedule.matchesInstant r = true) ∧
        (rs.Pairwise fun a b => a.minute + 2 ≤ b.minute) ∧
        ∀ i, start.minute < i → (∃ r ∈ rs, i ≤ r.minute) → c.schedule.firesAt i = true →
          (∃ r ∈ rs, r.minute = i) ∨ ∃ r ∈ rs, i = r.minute + 1) := by
  have hok : ∀ (k : ℕ) rs, c.runs k start limit = .ok rs ↔
      c.schedule.RunList start limit k rs := fun k rs => by
    rw [runs_natCast, Except.mapError_eq_ok_iff, Schedule.nextRuns_eq_ok_iff]
  refine ⟨hok n, fun f => ?_, fun f hf => ?_, fun rs hrs => ?_⟩
  · simp only [nextRun_eq_ok_iff, nextRun_eq_error_iff, runs_natCast, Except.mapError_eq_ok_iff,
      Except.mapError_eq_error_iff, Schedule.nextRuns_eq_error_iff, Schedule.nextRuns_eq_ok_iff,
      Schedule.StopsAt]
    constructor
    · rintro ⟨e, ⟨i, rs, cursor, hi, hrs, hgo, hstop⟩, rfl⟩
      refine ⟨i, rs, cursor, hi, hrs, hgo, ?_⟩
      rcases hstop with hfail | ⟨t, ht, hlast, rfl⟩
      · exact Or.inl ⟨e, hfail, rfl⟩
      · exact Or.inr ⟨t, ht, hlast, rfl⟩
    · rintro ⟨i, rs, cursor, hi, hrs, hgo, ⟨e, hfail, rfl⟩ | ⟨t, ht, hlast, rfl⟩⟩
      · exact ⟨e, ⟨i, rs, cursor, hi, hrs, hgo, Or.inl hfail⟩, rfl⟩
      · exact ⟨.calendarEnd, ⟨i, rs, cursor, hi, hrs, hgo, Or.inr ⟨t, ht, hlast, rfl⟩⟩, rfl⟩
  · cases n with
    | zero =>
        rw [runs_natCast] at hf
        cases hf
    | succ n =>
        refine ⟨fun htold => ?_, fun hcount hlong => ?_⟩
        · by_cases hlow : -10 ^ Numeral.maxDigits < limit
          · obtain ⟨e, rfl⟩ := exists_exhausted_of_runs hlow hf
            exact ⟨rfl, rfl⟩
          · rw [runs_of_longLimit c n start (by omega), if_pos (by omega)] at hf
            obtain rfl := Except.error.inj hf
            exact ⟨rfl, rfl⟩
        · rw [runs_of_longLimit c n start hlong, if_neg hcount] at hf
          exact Except.error.inj hf ▸ Failure.isLongInteger
  · obtain ⟨hlength, -, hgreedy, -⟩ := (hok n rs).mp hrs
    refine ⟨hlength, fun r hr => hgreedy.fires r.minute (List.mem_map_of_mem hr),
      List.pairwise_map.mp hgreedy.pairwise, fun i hi hlast hfires => ?_⟩
    have hchosen := hgreedy.mem_or_pred_mem (i := i) (by omega) hfires (by simpa using hlast)
    simpa using hchosen

/-- **A list may fail without its search being exhausted.** With a negative limit that is too long to be
written there is no run, but this is not what a user is told. -/
theorem runs_untold_of_longLimit :
    ∃ c, parse "* * * * *" = .ok c ∧ ∃ start : Instant,
      start.minute = Instant.minuteNumber ⟨2024, 1, 1⟩ 0 0 ∧
        (¬ ∃ rs, c.schedule.RunList start (-10 ^ Numeral.maxDigits) 1 rs) ∧
        ¬ ∃ f, c.runs (1 : ℕ) start (-10 ^ Numeral.maxDigits) = .error f ∧
          f.kind? = some .searchExhausted := by
  obtain ⟨c, hc⟩ : ∃ c, parse "* * * * *" = .ok c := ⟨_, rfl⟩
  let start : Instant := { minute := Instant.minuteNumber ⟨2024, 1, 1⟩ 0 0, minute_lt := by decide }
  have hfails : c.runs (1 : ℕ) start (-10 ^ Numeral.maxDigits) = .error .longInteger := by
    rw [← Nat.zero_add 1, runs_of_longLimit c 0 start le_rfl, if_neg (by decide)]
  refine ⟨c, hc, start, rfl, ?_, ?_⟩
  · rintro ⟨rs, hrs⟩
    cases hfails.symm.trans (runs_eq_ok_iff.mpr hrs)
  · rintro ⟨f, hf, hkind⟩
    obtain rfl := Except.error.inj (hfails.symm.trans hf)
    cases hkind

end Cron

end CronPreview
