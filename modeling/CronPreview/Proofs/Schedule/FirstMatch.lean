/-
The search for the next run is a bounded search for the first match.

* `Instant.candidate?`: the candidates of a search, each a minute after the one before;
  `Instant.face_candidate?` reads them off the clock, and `Instant.isSome_candidate?_iff` counts them:
  there are `Instant.candidateCount` of them up to the last minute of the calendar;
* `Schedule.FirstMatch`: the first candidate within the limit at which a schedule fires;
* `Schedule.searchFrom_eq_ok_iff`, `Schedule.searchFrom_eq_error_iff`: the invariant of the search,
  which has tested the first `k` candidates in vain and has `n` left;
* `Failure.IsExhaustion`, `Failure.IsLongInteger`: what a user is told when a search has failed, which depends
  on whether its limit can be written;
* `Cron.nextRun_of_longLimit`: a negative limit that is too long is not told, and neither is the failure;
* `Cron.nextRun_eq_first_match`: what the search answers, and how it fails.
-/
import CronPreview.Failure
import CronPreview.Proofs.Outcome
import CronPreview.Proofs.Calendar.Clock
import CronPreview.Proofs.Text.Numeral

namespace CronPreview

/-! ### The candidates of a search -/

namespace Instant

/-- The `k`-th candidate of a search from `start`: the next whole minute, and `k` minutes more. -/
def candidate? (start : Instant) : ℕ → Option Instant
  | 0 => start.roundUp
  | k + 1 => (start.candidate? k).bind roundUp

/-- How many whole minutes of the calendar come after the minute of `start`. -/
def candidateCount (start : Instant) : ℕ := lastMinute - start.minute

/-- The candidates are the minutes after `start`, on the same clock. -/
lemma candidate?_eq_atMinute? (start : Instant) (k : ℕ) :
    start.candidate? k = start.atMinute? (start.minute + 1 + k) := by
  induction k with
  | zero => rfl
  | succ k ih =>
      rw [candidate?, ih]
      cases h : start.atMinute? (start.minute + 1 + k) with
      | none =>
          rw [atMinute?_eq_none_iff] at h
          rw [Option.bind_none, eq_comm, atMinute?_eq_none_iff]
          omega
      | some t =>
          obtain ⟨hminute, -, -, hzone⟩ := atMinute?_eq_some_iff.mp h
          rw [Option.bind_some, roundUp, atMinute?, atMinute?, hminute, hzone]
          rfl

lemma candidate?_eq_some_iff {start t : Instant} {k : ℕ} :
    start.candidate? k = some t ↔ t.minute = start.minute + 1 + k ∧ t.second = 0
      ∧ t.microsecond = 0 ∧ t.zone = start.zone := by
  rw [candidate?_eq_atMinute?, atMinute?_eq_some_iff]

lemma candidate?_eq_none_iff {start : Instant} {k : ℕ} :
    start.candidate? k = none ↔ start.candidateCount ≤ k := by
  have := start.minute_le_lastMinute
  rw [candidate?_eq_atMinute?, atMinute?_eq_none_iff, candidateCount]
  omega

/-- The calendar has `candidateCount` candidates. -/
theorem isSome_candidate?_iff {start : Instant} {k : ℕ} :
    (start.candidate? k).isSome = true ↔ k < start.candidateCount := by
  rw [Option.isSome_iff_ne_none, ne_eq, candidate?_eq_none_iff, Nat.not_le]

/-- The clock shows the `k`-th candidate `k + 1` minutes after `start`. -/
theorem face_candidate? {start t : Instant} {k : ℕ} (h : start.candidate? k = some t) :
    t.face = Face.next^[k + 1] start.face := by
  induction k generalizing t with
  | zero => exact (face_roundUp h).1
  | succ k ih =>
      obtain ⟨u, hu, hut⟩ := Option.bind_eq_some_iff.mp h
      rw [Function.iterate_succ_apply', ← ih hu]
      exact (face_roundUp hut).1

end Instant

/-! ### The search -/

/-- The minutes of two leap years. -/
lemma twoYears_eq : twoYears = 1054080 := by decide

namespace Schedule

/-- `t` is the `k`-th candidate after `start`, which lies within the limit, and the first one at
which the schedule fires. -/
structure FirstMatch (s : Schedule) (start : Instant) (limit : ℤ) (k : ℕ) (t : Instant) :
    Prop where
  within : (k : ℤ) < limit
  candidate : start.candidate? k = some t
  fires : s.matchesInstant t = true
  least : ∀ j u, j < k → start.candidate? j = some u → s.matchesInstant u = false

variable {s : Schedule} {start t : Instant} {limit : ℤ}

/-- A search that has `n` candidates left after the first `k` ones finds the first of them at which
the schedule fires. -/
lemma searchFrom_eq_ok_iff {n k : ℕ} :
    s.searchFrom limit start n (start.candidate? k) = .ok t ↔
      ∃ j, k ≤ j ∧ j < k + n ∧ start.candidate? j = some t ∧ s.matchesInstant t = true ∧
        ∀ i u, k ≤ i → i < j → start.candidate? i = some u → s.matchesInstant u = false := by
  induction n generalizing k with
  | zero =>
      refine iff_of_false ?_ fun ⟨j, hk, hj, _⟩ => by omega
      cases start.candidate? k <;> simp [searchFrom]
  | succ n ih =>
      cases hk : start.candidate? k with
      | none =>
          refine iff_of_false (by simp [searchFrom]) fun ⟨j, hkj, _, hj, _⟩ => ?_
          have := (Instant.isSome_candidate?_iff (k := j)).mp (by rw [hj]; rfl)
          have := Instant.candidate?_eq_none_iff.mp hk
          omega
      | some u =>
          have hnext : u.roundUp = start.candidate? (k + 1) := by
            rw [Instant.candidate?, hk, Option.bind_some]
          by_cases hu : s.matchesInstant u = true
          · rw [searchFrom, if_pos hu, Except.ok.injEq]
            constructor
            · rintro rfl
              exact ⟨k, Nat.le_refl k, by omega, hk, hu, fun i _ h₁ h₂ => by omega⟩
            · rintro ⟨j, hkj, -, hj, -, hleast⟩
              rcases Nat.lt_or_eq_of_le hkj with hlt | rfl
              · rw [hleast k u (Nat.le_refl k) hlt hk] at hu
                cases hu
              · rw [hk] at hj
                exact Option.some.inj hj
          · rw [searchFrom, if_neg hu, hnext, ih]
            constructor
            · rintro ⟨j, hkj, hjn, hj, hfires, hleast⟩
              refine ⟨j, by omega, by omega, hj, hfires, fun i v hki hij hi => ?_⟩
              rcases Nat.lt_or_eq_of_le hki with hlt | rfl
              · exact hleast i v hlt hij hi
              · rw [hk] at hi
                cases hi
                simpa using hu
            · rintro ⟨j, hkj, hjn, hj, hfires, hleast⟩
              have hne : k ≠ j := by
                rintro rfl
                rw [hk] at hj
                cases hj
                exact hu hfires
              exact ⟨j, by omega, by omega, hj, hfires,
                fun i v hki hij hi => hleast i v (by omega) hij hi⟩

/-- A search that has `n` candidates left after the first `k` ones fails when the schedule fires at
none of them. The calendar has ended if it has no more than `k + n` candidates. -/
lemma searchFrom_eq_error_iff {n k : ℕ} {e : SearchStop} :
    s.searchFrom limit start n (start.candidate? k) = .error e ↔
      (∀ j u, k ≤ j → j < k + n → start.candidate? j = some u → s.matchesInstant u = false) ∧
        e = if start.candidateCount ≤ k + n then .calendarEnd else .limitReached limit start := by
  induction n generalizing k with
  | zero =>
      cases hk : start.candidate? k with
      | none =>
          rw [Instant.candidate?_eq_none_iff] at hk
          rw [searchFrom, Except.error.injEq, if_pos (by omega), eq_comm, iff_and_self]
          exact fun _ j _ h₁ h₂ => by omega
      | some u =>
          have hcount := Instant.isSome_candidate?_iff.mp (Option.isSome_of_eq_some hk)
          rw [searchFrom, Except.error.injEq, if_neg (by omega), eq_comm, iff_and_self]
          exact fun _ j _ h₁ h₂ => by omega
  | succ n ih =>
      cases hk : start.candidate? k with
      | none =>
          have hcount := Instant.candidate?_eq_none_iff.mp hk
          rw [searchFrom, Except.error.injEq, if_pos (by omega), eq_comm, iff_and_self]
          intro _ j u hkj _ hj
          have := Instant.isSome_candidate?_iff.mp (Option.isSome_of_eq_some hj)
          omega
      | some u =>
          have hnext : u.roundUp = start.candidate? (k + 1) := by
            rw [Instant.candidate?, hk, Option.bind_some]
          by_cases hu : s.matchesInstant u = true
          · refine iff_of_false (by simp [searchFrom, hu]) fun ⟨hnone, _⟩ => ?_
            rw [hnone k u (Nat.le_refl k) (by omega) hk] at hu
            cases hu
          · rw [searchFrom, if_neg hu, hnext, ih, Nat.add_right_comm k 1 n]
            refine and_congr_left fun _ => ⟨fun hnone j v hkj hjn hj => ?_,
              fun hnone j v hkj hjn hj => hnone j v (by omega) (by omega) hj⟩
            rcases Nat.lt_or_eq_of_le hkj with hlt | rfl
            · exact hnone j v hlt (by omega) hj
            · rw [hk] at hj
              cases hj
              simpa using hu

/-- **The search finds the first match**, and nothing else. -/
theorem nextRun_eq_ok_iff : s.nextRun start limit = .ok t ↔ ∃ k, s.FirstMatch start limit k t := by
  rw [nextRun, show start.roundUp = start.candidate? 0 from rfl, searchFrom_eq_ok_iff]
  constructor
  · rintro ⟨k, -, hk, hcandidate, hfires, hleast⟩
    exact ⟨k, by omega, hcandidate, hfires, fun j u hj => hleast j u (Nat.zero_le j) hj⟩
  · rintro ⟨k, hk, hcandidate, hfires, hleast⟩
    exact ⟨k, Nat.zero_le k, by omega, hcandidate, hfires, fun j u _ hj => hleast j u hj⟩

/-- The search fails when no candidate within the limit is a match. It is the calendar that has ended
when the limit reaches beyond the last candidate, or just to it, or if there is no candidate. -/
theorem nextRun_eq_error_iff {e : SearchStop} :
    s.nextRun start limit = .error e ↔
      (∀ (j : ℕ) u, j < limit → start.candidate? j = some u → s.matchesInstant u = false) ∧
        e = if start.candidateCount = 0 ∨ start.candidateCount ≤ limit then .calendarEnd
          else .limitReached limit start := by
  have hcount : start.candidateCount ≤ 0 + limit.toNat ↔
      start.candidateCount = 0 ∨ (start.candidateCount : ℤ) ≤ limit := by omega
  rw [nextRun, show start.roundUp = start.candidate? 0 from rfl, searchFrom_eq_error_iff]
  simp only [hcount]
  refine and_congr_left fun _ => ⟨fun hnone j u hj => hnone j u (Nat.zero_le j) (by omega),
    fun hnone j u _ hj => hnone j u (by omega)⟩

end Schedule

/-- A negative limit leaves no candidate, if the calendar has one at all. -/
lemma Schedule.nextRun_of_neg {s : Schedule} {start : Instant} {limit : ℤ}
    (hcount : start.candidateCount ≠ 0) (hlimit : limit < 0) :
    s.nextRun start limit = .error (.limitReached limit start) :=
  Schedule.nextRun_eq_error_iff.mpr ⟨fun j u hj => by omega, by rw [if_neg (by omega)]⟩

/-! ### Failures of a search -/

/-- Numbers of too many digits below zero are far below it. -/
lemma neg_of_longLimit {limit : ℤ} (h : limit ≤ -10 ^ Numeral.maxDigits) : limit < 0 := by
  have hpos : (0 : ℤ) < 10 ^ Numeral.maxDigits := by positivity
  omega

lemma longLimit_lt_of_nonneg {limit : ℤ} (h : 0 ≤ limit) : -10 ^ Numeral.maxDigits < limit :=
  Int.not_le.mp fun hlong => absurd (neg_of_longLimit hlong) (Int.not_lt.mpr h)

namespace Failure

/-- A user is told, with this message, that there is no run of the expression with this text. -/
structure IsExhaustion (f : Failure) (source message : String) : Prop where
  kind : f.kind? = some .searchExhausted
  token : f.token? = some source
  message : f.message = message

/-- A user is told that a number has too many digits to be told, and nothing of an expression. -/
structure IsLongInteger (f : Failure) : Prop where
  kind : f.kind? = none
  token : f.token? = none
  message : f.message = "Exceeds the limit (4300 digits) for integer string conversion; "
    ++ "use sys.set_int_max_str_digits() to increase the limit"

variable {source : String} {start : Instant} {limit : ℤ}

lemma isLongInteger : longInteger.IsLongInteger := ⟨rfl, rfl, by decide⟩

/-- A limit that can be written is told, but that of two years has a name. -/
lemma isExhaustion_ofSearch (hlow : -10 ^ Numeral.maxDigits < limit)
    (hhigh : limit < 10 ^ Numeral.maxDigits) :
    (ofSearch source (.limitReached limit start)).IsExhaustion source
      (if limit = 1054080 then "Could not find the next run within 2 years."
        else "Could not find the next run within " ++ String.ofList (Numeral.renderInt limit)
          ++ " minutes.") := by
  obtain ⟨w, hw, rfl⟩ := WritableInt.exists_ofInt? hlow hhigh
  rw [ofSearch, hw]
  refine ⟨rfl, rfl, ?_⟩
  rw [Option.elim_some, message_exhausted, SearchError.message, WritableInt.text, twoYears_eq]

lemma exists_exhausted (hlow : -10 ^ Numeral.maxDigits < limit) (hhigh : limit < 10 ^ Numeral.maxDigits) :
    ∃ e, ofSearch source (.limitReached limit start) = exhausted source e := by
  obtain ⟨w, hw, -⟩ := WritableInt.exists_ofInt? hlow hhigh
  exact ⟨.limitReached w start, by rw [ofSearch, hw, Option.elim_some]⟩

/-- A limit that is too long takes the place of the exhausted search. -/
lemma ofSearch_of_le (h : limit ≤ -10 ^ Numeral.maxDigits) :
    ofSearch source (.limitReached limit start) = longInteger := by
  rw [ofSearch, WritableInt.ofInt?_of_le h, Option.elim_none]

end Failure

/-- The calendar does not have so many minutes that their number could not be written. -/
lemma Instant.candidateCount_lt (start : Instant) :
    (start.candidateCount : ℤ) < 10 ^ Numeral.maxDigits := by
  have hcount : start.candidateCount ≤ lastMinute := Nat.sub_le lastMinute start.minute
  calc (start.candidateCount : ℤ) ≤ lastMinute := Int.ofNat_le.mpr hcount
    _ < 10 ^ 10 := by decide
    _ ≤ 10 ^ Numeral.maxDigits := pow_le_pow_right₀ (by decide) (by decide)

namespace Cron

variable {c : Cron} {start t : Instant} {limit : ℤ}

lemma nextRun_eq_error_iff {f : Failure} :
    c.nextRun start limit = .error f ↔
      ∃ e, c.schedule.nextRun start limit = .error e ∧ .ofSearch c.source e = f := by
  rw [nextRun, Except.mapError_eq_error_iff]

lemma nextRun_eq_ok_iff : c.nextRun start limit = .ok t ↔ c.schedule.nextRun start limit = .ok t := by
  rw [nextRun, Except.mapError_eq_ok_iff]

/-- Where a search with any other limit fails, it is exhausted. -/
lemma exists_exhausted_of_nextRun {f : Failure} (hlow : -10 ^ Numeral.maxDigits < limit)
    (h : c.nextRun start limit = .error f) : ∃ e, f = .exhausted c.source e := by
  obtain ⟨e, he, rfl⟩ := nextRun_eq_error_iff.mp h
  obtain ⟨-, rfl⟩ := Schedule.nextRun_eq_error_iff.mp he
  split
  · exact ⟨_, rfl⟩
  · have hcount := start.candidateCount_lt
    exact Failure.exists_exhausted hlow (by omega)

/-- A limit that is too long is not told. -/
lemma nextRun_of_longLimit (c : Cron) (hcount : start.candidateCount ≠ 0)
    (h : limit ≤ -10 ^ Numeral.maxDigits) : c.nextRun start limit = .error .longInteger :=
  nextRun_eq_error_iff.mpr
    ⟨_, Schedule.nextRun_of_neg hcount (neg_of_longLimit h), Failure.ofSearch_of_le h⟩

/-- Nor is it told that the search is exhausted. -/
lemma not_exhausted_of_longLimit (hcount : start.candidateCount ≠ 0)
    (h : limit ≤ -10 ^ Numeral.maxDigits) :
    ¬ ∃ f, c.nextRun start limit = .error f ∧ f.kind? = some .searchExhausted := by
  rintro ⟨f, hf, hkind⟩
  rw [c.nextRun_of_longLimit hcount h] at hf
  obtain rfl := Except.error.inj hf
  cases hkind

/-- **The next run is the first match.** The candidates are the whole minutes after `start` as the
clock shows them, up to the last one of the calendar. The next run is the first candidate within the
limit at which the expression fires; if there is none the search is exhausted, which is told of the
end of the calendar when the limit leaves no candidate out, and of the limit when it does. Only a
negative limit of more digits than can be written is not told, and then it is not told either that
the search is exhausted. -/
theorem nextRun_eq_first_match (c : Cron) (start : Instant) (limit : ℤ) :
    (∀ k t, start.candidate? k = some t → t.face = Face.next^[k + 1] start.face ∧ t.second = 0
      ∧ t.microsecond = 0 ∧ t.zone = start.zone) ∧
    (∀ k, (start.candidate? k).isSome = true ↔ k < start.candidateCount) ∧
    (∀ t, c.nextRun start limit = .ok t ↔ ∃ k, c.schedule.FirstMatch start limit k t) ∧
    ((∃ k t, c.schedule.FirstMatch start limit k t) ∨
      ∃ f, c.nextRun start limit = .error f ∧
        (start.candidateCount = 0 ∨ start.candidateCount ≤ limit → f.IsExhaustion c.source
          "Could not find the next run before the end of the calendar.") ∧
        (¬ (start.candidateCount = 0 ∨ start.candidateCount ≤ limit) →
          (-10 ^ Numeral.maxDigits < limit → f.IsExhaustion c.source
            (if limit = 1054080 then "Could not find the next run within 2 years."
              else "Could not find the next run within " ++ String.ofList (Numeral.renderInt limit)
                ++ " minutes.")) ∧
          (limit ≤ -10 ^ Numeral.maxDigits → f.IsLongInteger))) := by
  refine ⟨fun k t h => ⟨Instant.face_candidate? h, (Instant.candidate?_eq_some_iff.mp h).2⟩,
    fun k => Instant.isSome_candidate?_iff, fun t => ?_, ?_⟩
  · rw [nextRun_eq_ok_iff, Schedule.nextRun_eq_ok_iff]
  · cases h : c.schedule.nextRun start limit with
    | ok t =>
        obtain ⟨k, hk⟩ := Schedule.nextRun_eq_ok_iff.mp h
        left
        exact ⟨k, t, hk⟩
    | error e =>
        right
        have he := (Schedule.nextRun_eq_error_iff.mp h).2
        refine ⟨.ofSearch c.source e, nextRun_eq_error_iff.mpr ⟨e, h, rfl⟩, fun hend => ?_,
          fun hlimit => ?_⟩
        · rw [he, if_pos hend]
          exact ⟨rfl, rfl, rfl⟩
        · rw [he, if_neg hlimit]
          have hcount := start.candidateCount_lt
          have hhigh : limit < start.candidateCount := by omega
          exact ⟨fun hlow => Failure.isExhaustion_ofSearch hlow (hhigh.trans hcount),
            fun hlong => Failure.ofSearch_of_le hlong ▸ Failure.isLongInteger⟩

/-- **A search may fail without being exhausted.** There is no candidate within a negative number of
minutes, but this is not what a user is told if the number is too long to be written. -/
theorem nextRun_untold_of_longLimit :
    ∃ c, parse "* * * * *" = .ok c ∧ ∃ start : Instant,
      start.minute = Instant.minuteNumber ⟨2024, 1, 1⟩ 0 0 ∧
        (¬ ∃ k t, c.schedule.FirstMatch start (-10 ^ Numeral.maxDigits) k t) ∧
        ¬ ∃ f, c.nextRun start (-10 ^ Numeral.maxDigits) = .error f ∧
          f.kind? = some .searchExhausted := by
  obtain ⟨c, hc⟩ : ∃ c, parse "* * * * *" = .ok c := ⟨_, rfl⟩
  let start : Instant := { minute := Instant.minuteNumber ⟨2024, 1, 1⟩ 0 0, minute_lt := by decide }
  refine ⟨c, hc, start, rfl, ?_, not_exhausted_of_longLimit (by decide) le_rfl⟩
  rintro ⟨k, t, hmatch⟩
  have hnegative := neg_of_longLimit (le_refl (-10 ^ Numeral.maxDigits))
  have := hmatch.within
  omega

end Cron

end CronPreview
