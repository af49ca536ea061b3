/-
The order in which the values of an item are generated, in any domain and with any names.

* `strided_eq_phase`: every `n`-th value of an interval is taken by its distance from the first one;
* `InTurns`: a list that increases from one value to a later one, or in two turns to an earlier one;
* `Item.inTurns_ranged`, `Item.head?_ranged`: so do the values of a range, and they begin with its first end;
* `Item.rangeText`, `Item.RangeEnds`: the text of a range, and the two ends that it stands for;
* `Item.expand_cases`: an item that can be expanded has a star or two ends in the domain;
* `Item.expansion_in_order`: what the list of the values of an item looks like.
-/
import CronPreview.Proofs.Field.Denotation
import CronPreview.Proofs.Field.Walk

namespace CronPreview

/-! ### Intervals and strides -/

section intervals

variable {lo hi : ℤ} {n : ℕ}

lemma pairwise_interval (lo hi : ℤ) : (interval lo hi).Pairwise (· < ·) := by
  refine List.pairwise_map.mpr (List.pairwise_lt_range.imp ?_)
  intro j k hjk
  omega

lemma pairwise_phase (n : ℕ) (a lo hi : ℤ) : (phase n a (interval lo hi)).Pairwise (· < ·) :=
  (pairwise_interval lo hi).filter _

/-- What is taken from an interval by the distance from its first value begins with this value. -/
lemma head?_phase (n : ℕ) (h : lo ≤ hi) : (phase n (-lo) (interval lo hi)).head? = some lo := by
  rw [interval_eq_cons h, phase, List.filter_cons, if_pos (by simp), List.head?_cons]

lemma pairwise_strided (hn : 1 ≤ n) : (strided lo hi n).Pairwise (· < ·) := by
  refine List.pairwise_map.mpr (List.pairwise_lt_range.imp ?_)
  intro j k hjk
  have hstep : (j : ℤ) * n < k * n := Int.mul_lt_mul_of_pos_right (by omega) (by omega)
  omega

/-- **Every `n`-th value of an interval** is one whose distance from the first value is a multiple of `n`. -/
theorem strided_eq_phase (hn : 1 ≤ n) : strided lo hi n = phase n (-lo) (interval lo hi) := by
  refine FieldSet.eq_of_mem_iff (pairwise_strided hn) (pairwise_phase n (-lo) lo hi) fun x => ?_
  rw [mem_strided hn, mem_phase, mem_interval, Int.sub_eq_add_neg]

/-- There is nothing to be taken from an interval that ends before it begins. -/
lemma strided_of_lt (hn : 1 ≤ n) (h : hi < lo) : strided lo hi n = [] := by
  rw [strided_eq_phase hn, interval_of_lt h]
  rfl

end intervals

/-! ### Turns -/

/-- The list goes from `v` to `w`. If `w` is not before `v`, the list increases. Otherwise it takes two turns: it
increases from `v` on, and then once more up to `w`. -/
inductive InTurns (v w : ℤ) : List ℤ → Prop
  | one {l : List ℤ} : v ≤ w → l.Pairwise (· < ·) → InTurns v w l
  | two {l m : List ℤ} : w < v → l.Pairwise (· < ·) → (∀ x ∈ l, v ≤ x) → m.Pairwise (· < ·) →
      (∀ x ∈ m, x ≤ w) → InTurns v w (l ++ m)

/-- The two turns have no value in common. -/
lemma InTurns.nodup {v w : ℤ} {l : List ℤ} (h : InTurns v w l) : l.Nodup := by
  cases h with
  | one _ hl => exact hl.nodup
  | two hlt hl hfirst hm hsecond =>
      refine List.nodup_append'.mpr ⟨hl.nodup, hm.nodup, ?_⟩
      intro x hxl hxm
      have := hfirst x hxl
      have := hsecond x hxm
      omega

namespace Item

variable {d : Domain} {cs range : List Char} {v w : ℤ} {n : ℕ} {l : List ℤ}

/-- The values of a range go from its first end to its last one. -/
theorem inTurns_ranged (d : Domain) (v w : ℤ) (n : ℕ) : InTurns v w (ranged d v w n) := by
  rcases lt_or_ge w v with hlt | hle
  · rw [ranged_of_lt d n hlt]
    refine .two hlt (pairwise_phase ..) ?_ (pairwise_phase ..) ?_
    · intro x hx
      exact (mem_interval.mp (mem_phase.mp hx).1).1
    · intro x hx
      exact (mem_interval.mp (mem_phase.mp hx).1).2
  · rw [ranged_of_le d n hle, everyNth_interval]
    exact .one hle (pairwise_phase ..)

/-- The values of a range begin with its first end. -/
lemma head?_ranged (hmax : v ≤ d.max) : (ranged d v w n).head? = some v := by
  rcases lt_or_ge w v with hlt | hle
  · rw [ranged_of_lt d n hlt, List.head?_append, head?_phase n hmax, Option.some_or]
  · rw [ranged_of_le d n hle, everyNth_interval, head?_phase n hle]

lemma contains_of_mem_ranged (hv : d.Contains v) (hw : d.Contains w) {x : ℤ}
    (hx : x ∈ ranged d v w n) : d.Contains x := by
  rw [Domain.Contains] at *
  rw [mem_ranged] at hx
  split at hx
  · omega
  · omega

/-- A star takes the values of the range from end to end of its domain. -/
lemma strided_eq_ranged (hn : 1 ≤ n) (h : d.min ≤ d.max) :
    strided d.min d.max n = ranged d d.min d.max n := by
  rw [strided_eq_phase hn, ranged_of_le d n h, everyNth_interval]

/-! ### The ends of a range -/

/-- The text of the range of an item, which is all that stands before its first slash. -/
def rangeText (cs : List Char) : List Char := (Text.cutAt '/' cs).1

/-- The text of a range stands for these two ends. A star goes from end to end of the domain, a lone token stands
for both ends, and of two tokens with a hyphen between them each stands for one end. The first hyphen counts. A token
stands for the value to which it is resolved, where the seventh day of the week is Sunday. -/
inductive RangeEnds (d : Domain) : List Char → ℤ → ℤ → Prop
  | star : RangeEnds d ['*'] d.min d.max
  | lone {cs : List Char} {v : ℤ} : '-' ∉ cs → cs ≠ ['*'] → Token.resolve d.names 0 cs = .ok v →
      RangeEnds d cs (d.normalize v) (d.normalize v)
  | between {as bs : List Char} {v w : ℤ} : '-' ∉ as → Token.resolve d.names 0 as = .ok v →
      Token.resolve d.names 0 bs = .ok w →
        RangeEnds d (as ++ '-' :: bs) (d.normalize v) (d.normalize w)

end Item

/-- The two ends of a span that was cut out of a text. -/
def Span.bounds (d : Domain) : Span (List Char) → Except ItemError (ℤ × ℤ)
  | .all => .ok (d.min, d.max)
  | .one cs => Item.ends d cs cs
  | .between cs ds => Item.ends d cs ds

namespace Item

variable {d : Domain} {cs range : List Char} {v w : ℤ} {n : ℕ} {l : List ℤ}

/-- **The cut at the first hyphen finds the ends of a range.** -/
theorem rangeEnds_iff : RangeEnds d range v w ↔ (cutSpan range).bounds d = .ok (v, w) := by
  constructor
  · intro h
    cases h with
    | star => rfl
    | lone hhyphen hstar hv =>
        rw [cutSpan_of_not_mem hhyphen hstar]
        exact ends_eq_pair_iff.mpr ⟨_, _, hv, hv, rfl, rfl⟩
    | between hhyphen hv hw =>
        rw [cutSpan_append hhyphen]
        exact ends_eq_pair_iff.mpr ⟨_, _, hv, hw, rfl, rfl⟩
  · intro h
    by_cases hstar : range = ['*']
    · subst hstar
      cases h
      exact .star
    · rcases Text.cutAt_cases '-' range with ⟨hhyphen, -⟩ | ⟨as, bs, rfl, hhyphen, -⟩
      · rw [cutSpan_of_not_mem hhyphen hstar] at h
        obtain ⟨x, y, hx, hy, rfl, rfl⟩ := ends_eq_pair_iff.mp h
        obtain rfl : x = y := Except.ok.inj (hx.symm.trans hy)
        exact .lone hhyphen hstar hx
      · rw [cutSpan_append hhyphen] at h
        obtain ⟨x, y, hx, hy, rfl, rfl⟩ := ends_eq_pair_iff.mp h
        exact .between hhyphen hx hy

/-- The text of a range stands for one pair of ends only. -/
lemma RangeEnds.unique {v' w' : ℤ} (h : RangeEnds d range v w) (h' : RangeEnds d range v' w') :
    v' = v ∧ w' = w := by
  have hpair := (rangeEnds_iff.mp h').symm.trans (rangeEnds_iff.mp h)
  simpa using hpair

lemma cutSpan_eq_all_iff : cutSpan range = .all ↔ range = ['*'] := by
  constructor
  · intro h
    by_contra hstar
    rcases Text.cutAt_cases '-' range with ⟨hhyphen, -⟩ | ⟨as, bs, rfl, hhyphen, -⟩
    · rw [cutSpan_of_not_mem hhyphen hstar] at h
      cases h
    · rw [cutSpan_append hhyphen] at h
      cases h
  · rintro rfl
    rfl

/-! ### Items that can be expanded -/

lemma one_le_of_step {i : Item} (h : i.step = .ok n) : 1 ≤ n := by
  obtain ⟨σ, t⟩ := i
  cases t with
  | none =>
      cases step_none_eq_ok_iff.mp h
      exact le_refl 1
  | some ds =>
      cases step_some_eq_ok_iff.mp h with
      | some _ hpos => exact hpos

/-- The ends of a range are those of its span. -/
lemma IsRange.bounds_eq {i : Item} (h : i.IsRange d v w n) : i.span.bounds d = .ok (v, w) := by
  rcases h.ends_eq with ⟨as, bs, hspan, hends⟩ | ⟨as, hspan, hends⟩
  · rw [hspan]
    exact hends
  · rw [hspan]
    exact hends

/-- **An item that can be expanded** is a star, of which every `n`-th value of the domain counts, or a range. -/
theorem expand_cases (h : expand d cs = .ok l) :
    ∃ n, 1 ≤ n ∧ ((cut cs).span = .all ∧ l = strided d.min d.max n ∨
      ∃ v w, (cut cs).IsRange d v w n ∧ l = ranged d v w n) := by
  rw [expand, Except.mapError_eq_ok_iff, values, Except.bind_eq_ok_iff] at h
  obtain ⟨n, hn, h⟩ := h
  refine ⟨n, one_le_of_step hn, ?_⟩
  cases hspan : (cut cs).span with
  | all =>
      rw [hspan] at h
      cases h
      exact Or.inl ⟨rfl, rfl⟩
  | one as =>
      simp only [hspan, Except.bind_eq_ok_iff, valuesBetween_eq_ok_iff] at h
      obtain ⟨⟨v, w⟩, hends, ⟨hv, hw⟩, rfl⟩ := h
      exact Or.inr ⟨v, w, ⟨hn, Or.inr ⟨as, hspan, hends⟩, hv, hw⟩, rfl⟩
  | between as bs =>
      simp only [hspan, Except.bind_eq_ok_iff, valuesBetween_eq_ok_iff] at h
      obtain ⟨⟨v, w⟩, hends, ⟨hv, hw⟩, rfl⟩ := h
      exact Or.inr ⟨v, w, ⟨hn, Or.inl ⟨as, bs, hspan, hends⟩, hv, hw⟩, rfl⟩

/-- The list goes from `v` to `w` through values of the domain. It begins with `v`, unless the range is a star in a
domain without values. -/
structure IsExpansion (d : Domain) (range : List Char) (v w : ℤ) (l : List ℤ) : Prop where
  contains : ∀ x ∈ l, d.Contains x
  nodup : l.Nodup
  eq_nil_iff : l = [] ↔ range = ['*'] ∧ d.max < d.min
  head_eq : ∀ x ∈ l.head?, x = v
  inTurns : InTurns v w l

/-- The values of a range between two values of the domain. -/
lemma isExpansion_ranged (range : List Char) (n : ℕ) (hv : d.Contains v) (hw : d.Contains w) :
    IsExpansion d range v w (ranged d v w n) := by
  have hhead : (ranged d v w n).head? = some v := head?_ranged hv.2
  have hturns := inTurns_ranged d v w n
  refine ⟨fun x => contains_of_mem_ranged hv hw, hturns.nodup, ?_, ?_, hturns⟩
  · have hmin : d.min ≤ d.max := hv.1.trans hv.2
    constructor
    · intro hnil
      rw [hnil] at hhead
      cases hhead
    · rintro ⟨-, hlt⟩
      omega
  · intro x hx
    rw [hhead] at hx
    exact (Option.some.inj hx).symm

/-- The values of a star. -/
lemma isExpansion_strided (hn : 1 ≤ n) :
    IsExpansion d ['*'] d.min d.max (strided d.min d.max n) := by
  rcases lt_or_ge d.max d.min with hlt | hle
  · rw [strided_of_lt hn hlt]
    have hturns : InTurns d.min d.max ([] ++ []) := .two hlt .nil (by simp) .nil (by simp)
    exact ⟨by simp, .nil, by simp [hlt], by simp, hturns⟩
  · rw [strided_eq_ranged hn hle]
    exact isExpansion_ranged ['*'] n ⟨le_refl _, hle⟩ ⟨hle, le_refl _⟩

/-- An item that can be expanded is in order between the ends of its range. -/
lemma isExpansion_of_expand (h : expand d cs = .ok l) :
    ∃ v w, RangeEnds d (rangeText cs) v w ∧ IsExpansion d (rangeText cs) v w l := by
  have hcut : (cut cs).span = cutSpan (rangeText cs) := rfl
  obtain ⟨n, hn, ⟨hspan, rfl⟩ | ⟨v, w, hrange, rfl⟩⟩ := expand_cases h
  · rw [hcut, cutSpan_eq_all_iff] at hspan
    rw [hspan]
    exact ⟨d.min, d.max, .star, isExpansion_strided hn⟩
  · have hends : RangeEnds d (rangeText cs) v w := rangeEnds_iff.mpr hrange.bounds_eq
    exact ⟨v, w, hends, isExpansion_ranged _ n hrange.contains_first hrange.contains_last⟩

/-- **The values of an item in the order of their generation.** Whatever the bounds and the names of the domain, an
item that can be expanded begins and ends with one pair of ends, and its values go from the first of them to the last
one in one turn or in two. They are values of the domain, and none of them comes twice. There are some, and the first
one is the first end, unless the range is a star in a domain without values. In such a domain no item but a star can
be expanded. -/
theorem expansion_in_order (d : Domain) (cs : List Char) :
    (∀ l, expand d cs = .ok l →
      ∃ v w, (∀ v' w', RangeEnds d (rangeText cs) v' w' ↔ v' = v ∧ w' = w) ∧
        IsExpansion d (rangeText cs) v w l) ∧
    (d.max < d.min → rangeText cs ≠ ['*'] → ∃ f, expand d cs = .error f) := by
  refine ⟨fun l hl => ?_, fun hlt hstar => ?_⟩
  · obtain ⟨v, w, hends, hl⟩ := isExpansion_of_expand hl
    refine ⟨v, w, fun v' w' => ⟨hends.unique, ?_⟩, hl⟩
    rintro ⟨rfl, rfl⟩
    exact hends
  · cases hexpand : expand d cs with
    | error f => exact ⟨f, rfl⟩
    | ok l =>
        obtain ⟨v, w, -, hl⟩ := isExpansion_of_expand hexpand
        -- a list without values belongs to a star, and any value would lie between the bounds
        cases l with
        | nil => exact absurd (hl.eq_nil_iff.mp rfl).1 hstar
        | cons x l =>
            have hx : d.min ≤ x ∧ x ≤ d.max := hl.contains x List.mem_cons_self
            omega

/-- Watches are counted from two before midnight to five after it. One is known by a name that looks like a numeral,
and one name stands for no watch at all. -/
def watches : Domain where
  name := "watch"
  min := -2
  max := 5
  names := some { entries := [("7", -1), ("late", 4), ("never", 9)] }

/-- Every second watch from the late one to the one named 7: the range goes from 4 to -1 in two turns. -/
theorem expansion_in_order_watches :
    expand watches "LATE-7/2".toList = .ok [4, -2] ∧
      IsExpansion watches "LATE-7".toList 4 (-1) [4, -2] := by
  have hexpand : expand watches "LATE-7/2".toList = .ok [4, -2] := rfl
  have hends : RangeEnds watches "LATE-7".toList 4 (-1) :=
    @RangeEnds.between watches "LATE".toList "7".toList 4 (-1) (by decide) rfl rfl
  obtain ⟨v, w, hunique, hl⟩ := (expansion_in_order watches "LATE-7/2".toList).1 _ hexpand
  obtain ⟨rfl, rfl⟩ := (hunique 4 (-1)).mp hends
  exact ⟨hexpand, hl⟩

end Item

end CronPreview
