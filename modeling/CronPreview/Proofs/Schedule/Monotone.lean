/-
More values never delay a run.

* `Instant.reading`: how late it is on a wall clock;
* `Schedule.Within`, `Schedule.Within.firesAt`: a schedule whose sets are parts of those of another one fires
  only when that one does;
* `Schedule.Greedy.forall₂_le`: of two greedy choices the one that may choose from more minutes, or begins
  earlier, stays ahead;
* `Cron.AddsItems`, `Cron.exists_parse_of_addsItems`: an expression with more items can be read, and its sets
  have more values;
* `Cron.more_values_no_later`: with more values and an earlier start no run comes later.
-/
import CronPreview.Proofs.Field.Lists
import CronPreview.Proofs.Schedule.Horizon
import CronPreview.Proofs.Schedule.Runs
import CronPreview.Proofs.Text.Joined

namespace CronPreview

/-! ### Earlier and later on a wall clock -/

namespace Instant

/-- The microseconds that have passed on the clock since the beginning of the calendar. -/
def reading (t : Instant) : ℕ := (t.minute * 60 + t.second) * 1000000 + t.microsecond

variable {t u : Instant}

lemma minute_le_of_reading_le (h : t.reading ≤ u.reading) : t.minute ≤ u.minute := by
  have := u.second_lt
  have := u.microsecond_lt
  rw [reading, reading] at h
  omega

/-- Whole minutes are read off as they are counted. -/
lemma reading_le_of_minute_le (hsecond : t.second = 0) (hmicrosecond : t.microsecond = 0)
    (h : t.minute ≤ u.minute) : t.reading ≤ u.reading := by
  rw [reading, reading, hsecond, hmicrosecond]
  omega

end Instant

namespace Schedule

variable {s s' : Schedule} {start : Instant} {limit : ℤ} {m m' r r' : ℕ} {rs rs' : List ℕ}

/-! ### A schedule within another -/

/-- Each of the five sets is a part of the corresponding set of the other schedule. -/
structure Within (s s' : Schedule) : Prop where
  minute : ∀ v ∈ s.minute, v ∈ s'.minute
  hour : ∀ v ∈ s.hour, v ∈ s'.hour
  dayOfMonth : ∀ v ∈ s.dayOfMonth, v ∈ s'.dayOfMonth
  month : ∀ v ∈ s.month, v ∈ s'.month
  dayOfWeek : ∀ v ∈ s.dayOfWeek, v ∈ s'.dayOfWeek

lemma Within.firesAt (h : s.Within s') (hm : s.firesAt m = true) : s'.firesAt m = true := by
  obtain ⟨hminute, hhour, hday, hmonth, hweekday⟩ := firesAt_iff.mp hm
  exact firesAt_iff.mpr ⟨h.minute _ hminute, h.hour _ hhour, h.dayOfMonth _ hday, h.month _ hmonth,
    h.dayOfWeek _ hweekday⟩

/-! ### Greedy stays ahead -/

/-- The first match comes no later if there are more matches and the search begins no later. -/
lemma IsFirstFrom.le (hwithin : s.Within s') (hm : m' ≤ m) (h : s.IsFirstFrom m r)
    (h' : s'.IsFirstFrom m' r') : r' ≤ r := by
  by_contra hlater
  have hnot := h'.least r (hm.trans h.from_le) (Nat.lt_of_not_le hlater)
  rw [hwithin.firesAt h.fires] at hnot
  cases hnot

/-- **The greedy choice with more matches stays ahead.** It may pass over a minute that the other one chooses,
but only because it has chosen the minute before. -/
theorem Greedy.forall₂_le (hwithin : s.Within s') (hm : m' ≤ m) (h : s.Greedy m rs)
    (h' : s'.Greedy m' rs') (hlength : rs'.length = rs.length) : List.Forall₂ (· ≤ ·) rs' rs := by
  induction h generalizing m' rs' with
  | nil m =>
      obtain rfl : rs' = [] := List.length_eq_zero_iff.mp hlength
      exact .nil
  | cons hfirst _ ih =>
      cases h' with
      | nil => cases hlength
      | cons hfirst' hrest' =>
          have hahead := hfirst.le hwithin hm hfirst'
          exact .cons hahead (ih (by omega) hrest' (Nat.succ.inj hlength))

/-! ### The next run -/

/-- A search among more matches finds a run whenever the other one does, and no later. -/
theorem Within.exists_nextRun {t : Instant} (h : s.Within s') (ht : s.nextRun start limit = .ok t) :
    ∃ t', s'.nextRun start limit = .ok t' ∧ t'.minute ≤ t.minute := by
  obtain ⟨m, hm, hlimit, hfires⟩ := exists_nextRun_iff.mp ⟨t, ht⟩
  obtain ⟨t', ht'⟩ := exists_nextRun_iff.mpr ⟨m, hm, hlimit, h.firesAt hfires⟩
  have hfirst := (nextRun_eq_ok_iff_isFirstFrom.mp ht).1
  have hfirst' := (nextRun_eq_ok_iff_isFirstFrom.mp ht').1
  exact ⟨t', ht', hfirst.le h (Nat.le_refl _) hfirst'⟩

end Schedule

namespace Cron

variable {c c' : Cron} {a b : String}

/-! ### Expressions -/

/-- The `k`-th run of the first expression is never later than the `k`-th run of the second one if its list
begins no later, and it has a next run, and no later one, when the second one does. -/
structure RunsNoLater (c' c : Cron) : Prop where
  runs : ∀ {start start' : Instant} {count limit limit' : ℤ} {rs rs' : List Instant},
    start'.reading ≤ start.reading → c.runs count start limit = .ok rs →
      c'.runs count start' limit' = .ok rs' →
        List.Forall₂ (fun r' r => r'.reading ≤ r.reading) rs' rs
  nextRun : ∀ {start r : Instant} {limit : ℤ}, c.nextRun start limit = .ok r →
    ∃ r', c'.nextRun start limit = .ok r' ∧ r'.reading ≤ r.reading

/-- With more values no run comes later. Runs are whole minutes, so it is enough to compare their minutes. -/
theorem runsNoLater_of_within (h : c.schedule.Within c'.schedule) : c'.RunsNoLater c where
  runs := by
    intro start start' count limit limit' rs rs' hstart hrs hrs'
    have hlist := runList_of_runs hrs
    have hlist' := runList_of_runs hrs'
    have hminute : start'.minute + 1 ≤ start.minute + 1 :=
      Nat.succ_le_succ (Instant.minute_le_of_reading_le hstart)
    have hlength : (rs'.map Instant.minute).length = (rs.map Instant.minute).length := by
      rw [List.length_map, List.length_map, hlist.length, hlist'.length]
    have hahead := hlist.greedy.forall₂_le h hminute hlist'.greedy hlength
    rw [List.forall₂_map_left_iff, List.forall₂_map_right_iff] at hahead
    refine ((List.forall₂_and_left _ _).mpr ⟨hlist'.clock, hahead⟩).imp ?_
    rintro r' r ⟨⟨hsecond, hmicrosecond, -⟩, hle⟩
    exact Instant.reading_le_of_minute_le hsecond hmicrosecond hle
  nextRun := by
    intro start r limit hr
    simp only [nextRun_eq_ok_iff] at hr ⊢
    obtain ⟨r', hr', hle⟩ := h.exists_nextRun hr
    obtain ⟨-, -, hsecond, hmicrosecond, -⟩ := Schedule.nextRun_eq_ok_iff_isFirstFrom.mp hr'
    exact ⟨r', hr', Instant.reading_le_of_minute_le hsecond hmicrosecond hle⟩

/-- Field by field, the second text has all items of the first one, and besides them only items of the
domain. -/
def AddsItems (a b : String) : Prop :=
  List.Forall₂ (fun field g => Field.Extends field.1 field.2 g)
    (Domain.all.zip (Text.words a.toList)) (Text.words b.toList)

/-- **An expression with more items can be read**, and its sets have more values. -/
theorem exists_parse_of_addsItems (ha : parse a = .ok c) (h : AddsItems a b) :
    ∃ c', parse b = .ok c' ∧ c.schedule.Within c'.schedule := by
  have hword : ∀ w ∈ Text.words a.toList, Text.IsWord w := fun w hw => Text.isWord_of_mem_words hw
  have hword' : ∀ w ∈ Text.words b.toList, Text.IsWord w := fun w hw => Text.isWord_of_mem_words hw
  rw [AddsItems] at h
  rw [parse] at ha ⊢
  split at ha
  · next f₁ f₂ f₃ f₄ f₅ hwords =>
      rw [hwords] at hword h
      obtain ⟨s, hs, rfl⟩ := Except.map_eq_ok_iff.mp ha
      obtain ⟨p₁, p₂, p₃, p₄, p₅⟩ := parseFields_eq_ok_iff.mp hs
      -- the fields correspond one to one, so the other text has five of them as well
      generalize Text.words b.toList = gs at h hword'
      rcases h with - | ⟨e₁, - | ⟨e₂, - | ⟨e₃, - | ⟨e₄, - | ⟨e₅, - | -⟩⟩⟩⟩⟩
      simp only [List.forall_mem_cons] at hword hword'
      obtain ⟨w₁, w₂, w₃, w₄, w₅, -⟩ := hword
      obtain ⟨w₁', w₂', w₃', w₄', w₅', -⟩ := hword'
      obtain ⟨s₁, q₁, l₁⟩ := e₁.exists_parse w₁ w₁' p₁
      obtain ⟨s₂, q₂, l₂⟩ := e₂.exists_parse w₂ w₂' p₂
      obtain ⟨s₃, q₃, l₃⟩ := e₃.exists_parse w₃ w₃' p₃
      obtain ⟨s₄, q₄, l₄⟩ := e₄.exists_parse w₄ w₄' p₄
      obtain ⟨s₅, q₅, l₅⟩ := e₅.exists_parse w₅ w₅' p₅
      refine ⟨⟨_, s₁, s₂, s₃, s₄, s₅⟩, Except.map_eq_ok_iff.mpr ⟨_, ?_, rfl⟩, l₁, l₂, l₃, l₄, l₅⟩
      exact parseFields_eq_ok_iff.mpr ⟨q₁, q₂, q₃, q₄, q₅⟩
  · cases ha

/-- **More values never delay a run.** If every set of an expression is a part of the corresponding set of
another one, the other one has a next run whenever the first one does, and no later one; and wherever both have
as many runs as they are asked for, each of them is no later, however far the searches may go, as long as the
other one's begin no later. This is so in particular when items are added to the fields of an expression. -/
theorem more_values_no_later :
    (∀ c c' : Cron, c.schedule.Within c'.schedule → c'.RunsNoLater c) ∧
      ∀ a b c, parse a = .ok c → AddsItems a b →
        ∃ c', parse b = .ok c' ∧ c.schedule.Within c'.schedule ∧ c'.RunsNoLater c := by
  refine ⟨fun c c' => runsNoLater_of_within, fun a b c ha hadds => ?_⟩
  obtain ⟨c', hb, hwithin⟩ := exists_parse_of_addsItems ha hadds
  exact ⟨c', hb, hwithin, runsNoLater_of_within hwithin⟩

/-- A second hour does not delay what is done on Mondays at nine. -/
theorem more_values_no_later_monday :
    ∃ c c', parse "0 9 * * 1" = .ok c ∧ parse "0 9,18 * * 1" = .ok c' ∧ c'.RunsNoLater c := by
  have hadds : AddsItems "0 9 * * 1" "0 9,18 * * 1" := by
    have hhour : ∀ w ∈ Text.pieces (· == ',') ['1', '8'], ∃ l, Item.expand .hour w = .ok l :=
      fun w hw => ⟨[18], by rw [List.mem_singleton.mp hw]; rfl⟩
    exact .cons (.refl _ _) (.cons (.append ['9'] hhour)
      (.cons (.refl _ _) (.cons (.refl _ _) (.cons (.refl _ _) .nil))))
  obtain ⟨c, hc⟩ : ∃ c, parse "0 9 * * 1" = .ok c := ⟨_, rfl⟩
  obtain ⟨c', hc', -, hruns⟩ := more_values_no_later.2 _ _ c hc hadds
  exact ⟨c, c', hc, hc', hruns⟩

end Cron

end CronPreview
