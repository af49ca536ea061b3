/-
Numerals of a fixed width, and numerals that are not too long.

* `Numeral.value_render`, `Numeral.value_padded`: a numeral names the number that it was written for, also
  with zeros in front;
* `Numeral.length_padded`, `Numeral.isDigit_of_mem_padded`: a number that is not too large is written with as
  many digits as its place is wide;
* `WritableInt.ofInt?_eq_none_iff`, `WritableInt.exists_ofInt?`: the integers that can be written are those with
  at most `Numeral.maxDigits` digits.
-/
import Mathlib.Tactic
import CronPreview.Text.Numeral

namespace CronPreview

namespace Numeral

variable {n width : ℕ}

/-- Digits stand together among the ASCII characters. -/
lemma toNat_of_isDigit {c : Char} (h : c.isDigit = true) : 48 ≤ c.toNat ∧ c.toNat ≤ 57 := by
  simpa [Char.isDigit, UInt32.le_iff_toNat_le, ← Char.toNat_val] using h

lemma value_render (n : ℕ) : value (render n) = n :=
  Nat.ofDigitChars_toDigits (by decide) (by decide)

lemma isDigit_of_mem_render {c : Char} (hc : c ∈ render n) : c.isDigit = true :=
  Nat.isDigit_of_mem_toDigits (by decide) (by decide) hc

lemma isDigit_of_mem_padded {c : Char} (hc : c ∈ padded width n) : c.isDigit = true := by
  rw [padded] at hc
  rcases List.mem_append.mp hc with hc | hc
  · rw [List.eq_of_mem_replicate hc]
    decide
  · exact isDigit_of_mem_render hc

/-- A place is as wide as its width says, unless the number is too large for it. -/
lemma length_padded (h : n < 10 ^ width) (hwidth : 0 < width) : (padded width n).length = width := by
  have hlength : (render n).length ≤ width := Nat.toDigits_length 10 n width hwidth h
  rw [padded, List.length_append, List.length_replicate]
  omega

/-- Zeros in front of a numeral make no difference. -/
lemma value_replicate_append (k : ℕ) (ds : List Char) :
    value (List.replicate k '0' ++ ds) = value ds := by
  induction k with
  | zero => rfl
  | succ k ih => exact ih

/-- **A number is named by the numeral that is written for it**, whatever its width. -/
theorem value_padded (width n : ℕ) : value (padded width n) = n := by
  rw [padded, value_replicate_append, value_render]

end Numeral

namespace WritableInt

variable {n : ℤ} {w : WritableInt}

lemma length_render_le_iff {m : ℕ} :
    (Numeral.render m).length ≤ Numeral.maxDigits ↔ m < 10 ^ Numeral.maxDigits :=
  Nat.length_toDigits_le_iff (by decide) (by decide)

/-- An integer cannot be written when it has too many digits. -/
theorem ofInt?_eq_none_iff : ofInt? n = none ↔ 10 ^ Numeral.maxDigits ≤ n.natAbs := by
  rw [← Nat.not_lt, ← length_render_le_iff, ofInt?]
  split <;> simp [*]

lemma value_of_ofInt? (h : ofInt? n = some w) : w.value = n := by
  rw [ofInt?] at h
  split at h
  · obtain rfl := Option.some.inj h
    rfl
  · cases h

/-- An integer between the bounds can be written. -/
theorem exists_ofInt? (hlow : -10 ^ Numeral.maxDigits < n) (hhigh : n < 10 ^ Numeral.maxDigits) :
    ∃ w, ofInt? n = some w ∧ w.value = n := by
  cases h : ofInt? n with
  | none =>
      have hlong := ofInt?_eq_none_iff.mp h
      zify at hlong
      exact absurd (abs_lt.mpr ⟨hlow, hhigh⟩) (Int.not_lt.mpr hlong)
  | some w => exact ⟨w, rfl, value_of_ofInt? h⟩

/-- A negative integer with too many digits cannot be written. -/
lemma ofInt?_of_le (h : n ≤ -10 ^ Numeral.maxDigits) : ofInt? n = none := by
  rw [ofInt?_eq_none_iff]
  zify
  exact (Int.le_neg_of_le_neg h).trans (neg_le_abs n)

end WritableInt

end CronPreview
