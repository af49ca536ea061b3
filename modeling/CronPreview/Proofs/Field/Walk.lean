/-
Ranges beside the walk round their domain.

* `Domain.next`, `Domain.Walk`: the walk from one value of a domain to another one, which goes on with
  the first value of the domain after the last one;
* `everyNth`: every `n`-th member of a list, the first one included;
* `Item.IsRange`: the range for which the text of an item stands;
* `everyNth_interval`, `everyNth_intervals`: the values that are taken from a walk, by their distance from its
  start;
* `Item.expand_eq_everyNth_iff`: when the values of a range are those that are taken from the walk.
-/
import CronPreview.Proofs.Field.Values
import CronPreview.Proofs.Outcome

namespace CronPreview

/-! ### Intervals -/

lemma interval_of_lt {lo hi : ℤ} (h : hi < lo) : interval lo hi = [] := by
  rw [interval, show (hi + 1 - lo).toNat = 0 by omega]
  rfl

/-- An interval begins with its first value. -/
lemma interval_eq_cons {lo hi : ℤ} (h : lo ≤ hi) :
    interval lo hi = lo :: interval (lo + 1) hi := by
  rw [interval, show (hi + 1 - lo).toNat = (hi + 1 - (lo + 1)).toNat + 1 by omega,
    List.range_succ_eq_map, List.map_cons, List.map_map, interval]
  refine congrArg₂ _ (by simp) (List.map_congr_left fun k _ => ?_)
  simp only [Function.comp_apply, Nat.cast_succ]
  omega

lemma length_interval (lo hi : ℤ) : (interval lo hi).length = (hi + 1 - lo).toNat := by
  simp [interval]

/-! ### The walk round a domain -/

namespace Domain

/-- The value after `x` on the way round the domain. -/
def next (d : Domain) (x : ℤ) : ℤ := if x = d.max then d.min else x + 1

/-- The list holds the values on the way from `v` to `w`, both included, in the order of the walk. -/
inductive Walk (d : Domain) (w : ℤ) : ℤ → List ℤ → Prop
  | stop : Walk d w w [w]
  | go {v : ℤ} {l : List ℤ} : v ≠ w → Walk d w (d.next v) l → Walk d w v (v :: l)

variable {d : Domain} {v w : ℤ}

/-- There is one way only. -/
lemma Walk.unique {l m : List ℤ} (hl : d.Walk w v l) (hm : d.Walk w v m) : l = m := by
  induction hl generalizing m with
  | stop =>
      cases hm with
      | stop => rfl
      | go hne _ => exact absurd rfl hne
  | go hne _ ih =>
      cases hm with
      | stop => exact absurd rfl hne
      | go _ hrest => rw [ih hrest]

/-- A walk goes on from one value to the next within the domain. -/
lemma Walk.pred {x : ℤ} {l : List ℤ} (hne : x - 1 ≠ w) (hx : x ≤ d.max) (h : d.Walk w x l) :
    d.Walk w (x - 1) ((x - 1) :: l) := by
  have hnext : d.next (x - 1) = x := by
    rw [next, if_neg (by omega), Int.sub_add_cancel]
  exact .go hne (hnext.symm ▸ h)

/-- The walk to a later value goes through the values between. -/
lemma walk_interval (hw : w ≤ d.max) (h : v ≤ w) : d.Walk w v (interval v w) := by
  induction v, h using Int.leInductionDown with
  | base =>
      rw [interval_eq_cons (le_refl w), interval_of_lt (by omega)]
      exact .stop
  | pred v hv ih =>
      rw [interval_eq_cons (by omega), Int.sub_add_cancel]
      exact ih.pred (by omega) (by omega)

/-- The walk to an earlier value goes to the end of the domain, and on from its start. -/
lemma walk_wrapped (hmin : d.min ≤ w) (hv : v ≤ d.max) (h : w < v) :
    d.Walk w v (interval v d.max ++ interval d.min w) := by
  have hmax : w < d.max := by omega
  induction v, hv using Int.leInductionDown with
  | base =>
      have hnext : d.next d.max = d.min := if_pos rfl
      rw [interval_eq_cons (le_refl d.max), interval_of_lt (by omega)]
      exact .go hmax.ne' (hnext.symm ▸ walk_interval hmax.le hmin)
  | pred v hv ih =>
      rw [interval_eq_cons (by omega), Int.sub_add_cancel, List.cons_append]
      exact (ih (by omega)).pred (by omega) hv

end Domain

/-! ### Phases of a stride -/

/-- The values of a list of which the sum with `a` is a multiple of `n`. -/
def phase (n : ℕ) (a : ℤ) (l : List ℤ) : List ℤ := l.filter fun x => (x + a) % n == 0

section phases

variable {l : List ℤ} {n : ℕ} {a b : ℤ}

lemma mem_phase {x : ℤ} : x ∈ phase n a l ↔ x ∈ l ∧ (n : ℤ) ∣ x + a := by
  rw [phase, List.mem_filter, beq_iff_eq, Int.dvd_iff_emod_eq_zero]

/-- Two phases have no value in common, unless the stride divides their distance. -/
lemma disjoint_phase (h : ¬ (n : ℤ) ∣ a - b) : (phase n a l).Disjoint (phase n b l) := by
  intro x ha hb
  refine h ?_
  rw [show a - b = x + a - (x + b) by omega]
  exact Int.dvd_sub (mem_phase.mp ha).2 (mem_phase.mp hb).2

/-- **Two phases hold the same values** if the stride divides their distance, and otherwise only if neither
holds any. -/
lemma phase_eq_iff :
    phase n a l = phase n b l ↔ (n : ℤ) ∣ a - b ∨ phase n a l = [] ∧ phase n b l = [] := by
  constructor
  · intro heq
    by_cases h : (n : ℤ) ∣ a - b
    · exact Or.inl h
    · have hdisjoint := disjoint_phase (l := l) h
      rw [heq] at hdisjoint ⊢
      have hnil : phase n b l = [] :=
        List.eq_nil_iff_forall_not_mem.mpr fun x hx => hdisjoint hx hx
      exact Or.inr ⟨hnil, hnil⟩
  · rintro (⟨k, hk⟩ | ⟨ha, hb⟩)
    · refine List.filter_congr fun x _ => ?_
      rw [show x + a = x + b + n * k by omega, Int.add_mul_emod_self_left]
    · rw [ha, hb]

end phases

/-! ### Every `n`-th value -/

/-- Every `n`-th member of a list: those with a place that `n` divides, counted from zero. -/
def everyNth {α : Type} (n : ℕ) (l : List α) : List α :=
  (l.zipIdx.filter fun p => p.2 % n == 0).map Prod.fst

/-- The place of a value in an interval is its distance from the first one. -/
lemma zipIdx_interval (lo hi : ℤ) (k : ℕ) :
    (interval lo hi).zipIdx k = (interval lo hi).map fun x => (x, k + (x - lo).toNat) := by
  refine List.ext_getElem? fun i => ?_
  simp only [List.getElem?_zipIdx, interval, List.getElem?_map, Option.map_map]
  rcases Nat.lt_or_ge i (hi + 1 - lo).toNat with h | h
  · simp [List.getElem?_range h]
  · simp [List.getElem?_eq_none, h]

/-- What is taken from an interval that comes after `k` other values. -/
lemma filter_zipIdx_interval (lo hi : ℤ) (k n : ℕ) :
    (((interval lo hi).zipIdx k).filter fun p => p.2 % n == 0).map Prod.fst =
      phase n (k - lo) (interval lo hi) := by
  rw [zipIdx_interval, List.filter_map, List.map_map]
  refine (List.map_id _).trans (List.filter_congr fun x hx => ?_)
  obtain ⟨j, hj⟩ := Int.eq_ofNat_of_zero_le (Int.sub_nonneg_of_le (mem_interval.mp hx).1)
  have hplace : (x + (k - lo)) % (n : ℤ) = ((k + (x - lo).toNat) % n : ℕ) := by
    rw [show x + (k - lo) = k + (x - lo) by omega, hj, Int.toNat_natCast, Int.natCast_mod,
      Nat.cast_add]
  rw [Function.comp_apply, hplace]
  exact Bool.eq_iff_iff.mpr (by rw [beq_iff_eq, beq_iff_eq, Int.natCast_eq_zero])

/-- From an interval the values are taken by their distance from the first one. -/
lemma everyNth_interval (lo hi : ℤ) (n : ℕ) :
    everyNth n (interval lo hi) = phase n (-lo) (interval lo hi) := by
  rw [everyNth, filter_zipIdx_interval, Nat.cast_zero, Int.zero_sub]

/-- From an interval after another one they are taken by their distance on the way. -/
lemma everyNth_intervals (lo hi lo' hi' : ℤ) (n : ℕ) :
    everyNth n (interval lo hi ++ interval lo' hi') =
      phase n (-lo) (interval lo hi) ++
        phase n ((hi + 1 - lo).toNat - lo') (interval lo' hi') := by
  rw [everyNth, List.zipIdx_append, List.filter_append, List.map_append,
    filter_zipIdx_interval, filter_zipIdx_interval, length_interval]
  simp

/-! ### Ranges -/

/-- The values of a list that lie in the part of a wrapped range to `w` which begins again at the start of the
domain. -/
def Domain.secondPart (d : Domain) (w : ℤ) (l : List ℤ) : List ℤ :=
  l.filter fun x => d.min ≤ x ∧ x ≤ w

lemma Domain.secondPart_append {d : Domain} {w : ℤ} {l m : List ℤ} (hl : ∀ x ∈ l, w < x)
    (hm : ∀ x ∈ m, d.min ≤ x ∧ x ≤ w) : d.secondPart w (l ++ m) = m := by
  have hnone : d.secondPart w l = [] := List.filter_eq_nil_iff.mpr fun x hx => by
    have := hl x hx
    simp only [decide_eq_true_eq]
    omega
  have hall : d.secondPart w m = m := List.filter_eq_self.mpr fun x hx => by
    simpa using hm x hx
  rw [secondPart, List.filter_append]
  exact (congrArg₂ _ hnone hall).trans (List.nil_append m)

namespace Item

/-- The item is a range: every `n`-th value counts of those from `v` to `w`, which are values of the domain.
A lone value is a range by itself. -/
structure IsRange (d : Domain) (i : Item) (v w : ℤ) (n : ℕ) : Prop where
  step_eq : i.step = .ok n
  ends_eq : (∃ as bs, i.span = .between as bs ∧ ends d as bs = .ok (v, w)) ∨
    ∃ as, i.span = .one as ∧ ends d as as = .ok (v, w)
  contains_first : d.Contains v
  contains_last : d.Contains w

variable {d : Domain} {cs : List Char} {v w : ℤ} {n : ℕ}

lemma IsRange.expand_eq (h : (cut cs).IsRange d v w n) :
    expand d cs = .ok (ranged d v w n) := by
  have hvalues : valuesBetween d n (v, w) = .ok (ranged d v w n) :=
    if_pos ⟨h.contains_first, h.contains_last⟩
  rw [expand, Except.mapError_eq_ok_iff, values, Except.bind_eq_ok_iff]
  refine ⟨n, h.step_eq, ?_⟩
  rcases h.ends_eq with ⟨as, bs, hspan, hends⟩ | ⟨as, hspan, hends⟩
  · rw [hspan, Except.bind_eq_ok_iff]
    exact ⟨_, hends, hvalues⟩
  · rw [hspan, Except.bind_eq_ok_iff]
    exact ⟨_, hends, hvalues⟩

/-- The values of a range in one piece are those that are taken from it. -/
lemma ranged_of_le (d : Domain) (n : ℕ) (h : v ≤ w) :
    ranged d v w n = everyNth n (interval v w) := by
  rw [everyNth_interval, ranged, if_pos h]
  rfl

/-- The values of a wrapped range lie in two phases of the stride. -/
lemma ranged_of_lt (d : Domain) (n : ℕ) (h : w < v) :
    ranged d v w n = phase n (-v) (interval v d.max) ++
      phase n (d.max - v + 1) (interval d.min w) := by
  rw [ranged, if_neg (by omega)]
  rfl

/-- **The seam of a wrapped range.** Its values are those that are taken from the walk if the step divides the
first value of the domain, and otherwise only if nothing is taken after the end of the domain. If they
differ, they have no value after the end of the domain in common. -/
theorem ranged_eq_everyNth_iff (hmax : v ≤ d.max) (h : w < v) :
    let taken := everyNth n (interval v d.max ++ interval d.min w)
    (ranged d v w n = taken ↔ (n : ℤ) ∣ d.min ∨
      d.secondPart w (ranged d v w n) = [] ∧ d.secondPart w taken = []) ∧
    (ranged d v w n ≠ taken →
      (d.secondPart w (ranged d v w n)).Disjoint (d.secondPart w taken)) := by
  have hfirst : ∀ x ∈ phase n (-v) (interval v d.max), w < x := fun x hx =>
    Int.lt_of_lt_of_le h (mem_interval.mp (mem_phase.mp hx).1).1
  have hsecond : ∀ a, ∀ x ∈ phase n a (interval d.min w), d.min ≤ x ∧ x ≤ w := fun a x hx =>
    mem_interval.mp (mem_phase.mp hx).1
  have hdistance : d.max - v + 1 - ((d.max + 1 - v).toNat - d.min) = d.min := by omega
  dsimp only
  rw [everyNth_intervals, ranged_of_lt d n h, Domain.secondPart_append hfirst (hsecond _),
    Domain.secondPart_append hfirst (hsecond _), ne_eq, List.append_cancel_left_eq, phase_eq_iff,
    hdistance]
  refine ⟨Iff.rfl, fun hne => disjoint_phase ?_⟩
  rw [hdistance]
  exact fun hdvd => hne (Or.inl hdvd)

/-- **Stepped ranges beside the walk round their domain.** There is one walk from the first value of a range
to its last one. A range in one piece has the values that are taken from this walk with its step. A wrapped
range has them exactly when the step divides the first value of the domain, or nothing is taken after the end
of the domain on either side; else the two sides have nothing in common there. So minutes, hours and days of
the week are always taken from the walk; days of the month and months are, with a step of more than one, only
if nothing is taken after the end of the domain. -/
theorem expand_eq_everyNth_iff (h : (cut cs).IsRange d v w n) :
    ∃ l way, expand d cs = .ok l ∧ (∀ ws, d.Walk w v ws ↔ ws = way) ∧
      (v ≤ w → l = everyNth n way) ∧
      (w < v →
        (l = everyNth n way ↔ (n : ℤ) ∣ d.min ∨
          d.secondPart w l = [] ∧ d.secondPart w (everyNth n way) = []) ∧
        (l ≠ everyNth n way →
          (d.secondPart w l).Disjoint (d.secondPart w (everyNth n way)))) ∧
      (d ∈ [Domain.minute, .hour, .dayOfWeek] → l = everyNth n way) ∧
      (d ∈ [Domain.dayOfMonth, .month] → 2 ≤ n → w < v →
        (l = everyNth n way ↔ d.secondPart w l = [] ∧ d.secondPart w (everyNth n way) = [])) := by
  have hunique : ∀ {way}, d.Walk w v way → ∀ ws, d.Walk w v ws ↔ ws = way := fun hway ws =>
    ⟨fun hws => hws.unique hway, fun hws => hws ▸ hway⟩
  have hminute : ∀ d ∈ [Domain.minute, .hour, .dayOfWeek], d.min = 0 := by decide
  have hday : ∀ d ∈ [Domain.dayOfMonth, .month], d.min = 1 := by decide
  rcases lt_or_ge w v with hlt | hle
  · obtain ⟨hiff, hdisjoint⟩ := ranged_eq_everyNth_iff (n := n) h.contains_first.2 hlt
    refine ⟨_, _, h.expand_eq, hunique (Domain.walk_wrapped h.contains_last.1 h.contains_first.2 hlt),
      fun hle => by omega, fun _ => ⟨hiff, hdisjoint⟩, fun hd => ?_, fun hd hn _ => ?_⟩
    · rw [hiff, hminute d hd]
      exact Or.inl (Int.dvd_zero _)
    · refine hiff.trans (or_iff_right fun hdvd => ?_)
      rw [hday d hd] at hdvd
      have := Int.le_of_dvd Int.one_pos hdvd
      omega
  · have heq := ranged_of_le d n hle
    exact ⟨_, _, h.expand_eq, hunique (Domain.walk_interval h.contains_last.2 hle), fun _ => heq,
      fun hlt => by omega, fun _ => heq, fun _ _ hlt => by omega⟩

/-- Every seventh day from the 25th to the 10th: the list has the 7th, and the walk goes to the 1st and the
8th. -/
theorem expand_eq_everyNth_iff_sevenDays :
    ∃ l way, expand .dayOfMonth "25-10/7".toList = .ok l ∧ Domain.dayOfMonth.Walk 10 25 way ∧
      l = [25, 7] ∧ everyNth 7 way = [25, 1, 8] ∧
        (Domain.dayOfMonth.secondPart 10 l).Disjoint
          (Domain.dayOfMonth.secondPart 10 (everyNth 7 way)) := by
  have hrange : (cut "25-10/7".toList).IsRange .dayOfMonth 25 10 7 :=
    ⟨rfl, Or.inl ⟨_, _, rfl, rfl⟩, by decide, by decide⟩
  obtain ⟨l, way, hexpand, hway, -, hseam, -, -⟩ := expand_eq_everyNth_iff hrange
  have hwalk := (hway way).mpr rfl
  have hl : l = [25, 7] := Except.ok.inj (hexpand.symm.trans rfl)
  have hway' : way = interval 25 31 ++ interval 1 10 :=
    hwalk.unique (Domain.walk_wrapped (by decide) (by decide) (by decide))
  have htaken : everyNth 7 way = [25, 1, 8] := by
    rw [hway']
    rfl
  refine ⟨l, way, hexpand, hwalk, hl, htaken, (hseam (by decide)).2 ?_⟩
  rw [hl, htaken]
  decide

end Item

end CronPreview
