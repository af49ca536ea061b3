/-
What every expression that can be read has in common.

* `Field.InDomain`: a set of values is not empty, and lies in a domain;
* `Field.Means.inDomain`: the set for which a field stands is such a set;
* `Schedule.InDomains`: each of the five sets of a schedule lies in its own domain;
* `Cron.inDomains_of_parse`: this holds of the schedule of every expression that can be read.
-/
import CronPreview.Proofs.Schedule.Grammar

namespace CronPreview

/-! ### Fields -/

/-- The span begins and ends in the domain. -/
def Span.InDomain (d : Domain) : Span ℤ → Prop
  | .all => True
  | .one v => d.Contains v
  | .between v w => d.Contains v ∧ d.Contains w

variable {d : Domain}

lemma IsSpan.inDomain {cs : List Char} {σ : Span ℤ} (h : IsSpan d cs σ) : σ.InDomain d := by
  cases h with
  | all => trivial
  | one _ hv => exact hv
  | between _ _ hv hw => exact ⟨hv, hw⟩

namespace Span

variable {σ : Span ℤ} {n : ℕ}

/-- A span holds values of its domain only. -/
lemma InDomain.contains (hσ : σ.InDomain d) {x : ℤ} (hx : σ.Holds d n x) : d.Contains x := by
  cases σ with
  | all => exact hx.1
  | one v =>
      rw [show x = v from hx]
      exact hσ
  | between v w =>
      obtain ⟨⟨hv₁, hv₂⟩, hw₁, hw₂⟩ := hσ
      rw [Holds] at hx
      rw [Domain.Contains]
      split at hx
      · omega
      · omega

/-- A span holds the value with which it begins. -/
lemma InDomain.exists_holds (hσ : σ.InDomain d) (hd : d.min ≤ d.max) : ∃ x, σ.Holds d n x := by
  cases σ with
  | all => exact ⟨d.min, ⟨Int.le_refl _, hd⟩, by simp⟩
  | one v => exact ⟨v, rfl⟩
  | between v w =>
      refine ⟨v, ?_⟩
      rw [Holds]
      split
      · next hvw => exact ⟨⟨Int.le_refl v, hvw⟩, by simp⟩
      · exact Or.inl ⟨⟨Int.le_refl v, hσ.1.2⟩, by simp⟩

end Span

namespace Field

/-- The set is not empty, and its values are values of the domain. -/
structure InDomain (d : Domain) (s : FieldSet) : Prop where
  nonempty : ∃ x, x ∈ s
  contains : ∀ x ∈ s, d.Contains x

/-- The set holds a natural number, when the domain has no negative values. -/
lemma InDomain.exists_nat {s : FieldSet} (h : InDomain d s) (hd : 0 ≤ d.min) :
    ∃ n : ℕ, (n : ℤ) ∈ s ∧ d.min ≤ n ∧ n ≤ d.max := by
  obtain ⟨x, hx⟩ := h.nonempty
  have hin : d.min ≤ x ∧ x ≤ d.max := h.contains x hx
  obtain ⟨n, rfl⟩ := Int.eq_ofNat_of_zero_le (Int.le_trans hd hin.1)
  exact ⟨n, hx, hin⟩

lemma span_inDomain {cs : List Char} {is : List (Span ℤ × ℕ)} (h : IsField d cs is) :
    is ≠ [] ∧ ∀ i ∈ is, i.1.InDomain d := by
  have hitem : ∀ {cs i}, IsItem d cs i → i.1.InDomain d := by
    intro cs i hi
    cases hi with
    | mk hspan _ => exact hspan.inDomain
  induction h with
  | last hi => exact ⟨by simp, by simpa using hitem hi⟩
  | cons hi _ ih => exact ⟨by simp, by simpa using And.intro (hitem hi) ih.2⟩

/-- A field stands for a set of values of its domain that is not empty. -/
theorem Means.inDomain {cs : List Char} {s : FieldSet} (h : Means d cs s) (hd : d.min ≤ d.max) :
    InDomain d s := by
  obtain ⟨is, his, hs⟩ := h
  obtain ⟨hne, hin⟩ := span_inDomain his
  refine ⟨?_, fun x hx => ?_⟩
  · obtain ⟨i, hi⟩ := List.exists_mem_of_ne_nil is hne
    obtain ⟨x, hx⟩ := (hin i hi).exists_holds (n := i.2) hd
    exact ⟨x, (hs x).mpr ⟨i, hi, hx⟩⟩
  · obtain ⟨i, hi, hx⟩ := (hs x).mp hx
    exact (hin i hi).contains hx

end Field

/-! ### Schedules -/

/-- Each set of the schedule is a set of values of its domain that is not empty. -/
structure Schedule.InDomains (s : Schedule) : Prop where
  minute : Field.InDomain .minute s.minute
  hour : Field.InDomain .hour s.hour
  dayOfMonth : Field.InDomain .dayOfMonth s.dayOfMonth
  month : Field.InDomain .month s.month
  dayOfWeek : Field.InDomain .dayOfWeek s.dayOfWeek

/-- **An expression that can be read stands for sets of values of their domains**, none of them
empty. -/
theorem Cron.inDomains_of_parse {text : String} {c : Cron} (h : Cron.parse text = .ok c) :
    c.schedule.InDomains := by
  obtain ⟨-, f₁, f₂, f₃, f₄, f₅, -, h₁, h₂, h₃, h₄, h₅⟩ := Cron.parse_eq_ok_iff.mp h
  exact
    { minute := h₁.inDomain (by decide)
      hour := h₂.inDomain (by decide)
      dayOfMonth := h₃.inDomain (by decide)
      month := h₄.inDomain (by decide)
      dayOfWeek := h₅.inDomain (by decide) }

end CronPreview
