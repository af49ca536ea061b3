/-
The values of spans.

* `mem_interval`, `mem_strided`, `Item.mem_ranged`: which values are generated;
* `Span.values`, `Span.mem_values`: the values of a span in the order in which they are generated,
  which are those that the span stands for.
-/
import CronPreview.Proofs.Field.Grammar

namespace CronPreview

lemma mem_interval {lo hi x : ℤ} : x ∈ interval lo hi ↔ lo ≤ x ∧ x ≤ hi := by
  simp only [interval, List.mem_map, List.mem_range]
  constructor
  · rintro ⟨k, hk, rfl⟩
    omega
  · rintro ⟨hlo, hhi⟩
    exact ⟨(x - lo).toNat, by omega, by omega⟩

/-- Every `n`-th value of an interval is one whose distance from its start `n` divides. -/
lemma mem_strided {lo hi x : ℤ} {n : ℕ} (hn : 1 ≤ n) :
    x ∈ strided lo hi n ↔ (lo ≤ x ∧ x ≤ hi) ∧ (n : ℤ) ∣ x - lo := by
  have hpos : (0 : ℤ) < n := by omega
  simp only [strided, List.mem_map, List.mem_range]
  constructor
  · rintro ⟨k, hk, rfl⟩
    have hquot : (k : ℤ) ≤ (hi - lo) / n := by omega
    have hle : (k : ℤ) * n ≤ hi - lo := (Int.le_ediv_iff_mul_le hpos).mp hquot
    have hnonneg : (0 : ℤ) ≤ k * n := by positivity
    refine ⟨by omega, ⟨k, ?_⟩⟩
    rw [Int.mul_comm]
    omega
  · rintro ⟨⟨hlo, hhi⟩, m, hm⟩
    have hm0 : 0 ≤ m := by
      by_contra hneg
      have : (n : ℤ) * m < 0 := mul_neg_of_pos_of_neg hpos (by omega)
      omega
    obtain ⟨k, rfl⟩ := Int.eq_ofNat_of_zero_le hm0
    refine ⟨k, ?_, by rw [Int.mul_comm]; omega⟩
    have hquot : (k : ℤ) ≤ (hi - lo) / n :=
      (Int.le_ediv_iff_mul_le hpos).mpr (by rw [Int.mul_comm]; omega)
    omega

lemma mem_filter_interval {lo hi x : ℤ} {n : ℕ} {f : ℤ → ℤ} :
    (x ∈ (interval lo hi).filter fun y => f y % n == 0) ↔ (lo ≤ x ∧ x ≤ hi) ∧ (n : ℤ) ∣ f x := by
  rw [List.mem_filter, mem_interval, beq_iff_eq, Int.dvd_iff_emod_eq_zero]

/-- The values of a range in one piece, and of one that begins again at the start of its domain. -/
lemma Item.mem_ranged {d : Domain} {v w x : ℤ} {n : ℕ} :
    x ∈ Item.ranged d v w n ↔
      if v ≤ w then (v ≤ x ∧ x ≤ w) ∧ (n : ℤ) ∣ x - v
      else (v ≤ x ∧ x ≤ d.max) ∧ (n : ℤ) ∣ x - v ∨
        (d.min ≤ x ∧ x ≤ w) ∧ (n : ℤ) ∣ x + d.max - v + 1 := by
  rw [Item.ranged]
  by_cases h : v ≤ w
  · rw [if_pos h, if_pos h, mem_filter_interval]
  · rw [if_neg h, if_neg h, List.mem_append, mem_filter_interval, mem_filter_interval,
      show x + (d.max - v + 1) = x + d.max - v + 1 by omega]

namespace Span

/-- The values of a span when every `n`-th value counts, in the order of their generation. -/
def values (d : Domain) (n : ℕ) : Span ℤ → List ℤ
  | .all => strided d.min d.max n
  | .one v => Item.ranged d v v n
  | .between v w => Item.ranged d v w n

/-- **The values that are generated are those for which the span stands.** -/
theorem mem_values {d : Domain} {n : ℕ} (hn : 1 ≤ n) {σ : Span ℤ} {x : ℤ} :
    x ∈ σ.values d n ↔ σ.Holds d n x := by
  cases σ with
  | all => exact mem_strided hn
  | one v =>
      rw [values, Item.mem_ranged, if_pos (le_refl v), Holds]
      constructor
      · omega
      · rintro rfl
        simp
  | between v w => exact Item.mem_ranged

end Span

end CronPreview
