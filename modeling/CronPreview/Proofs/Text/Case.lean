/-
Names in any letter case.

* `Text.IsPlain`: the small letters that no letter beyond ASCII has as its small form, which are all
  but `k`, the small form of the Kelvin sign;
* `Text.lower_eq_iff`: the small form of a text is a word of plain letters exactly when the text is
  that word in ASCII letters of any case.
-/
import Mathlib.Tactic
import CronPreview.Text.Lower

namespace CronPreview.Text

/-- A small ASCII letter that is the small form of ASCII letters only. -/
def IsPlain (c : Char) : Prop := c.isLower = true ∧ c ≠ 'k'

instance (c : Char) : Decidable (IsPlain c) := inferInstanceAs (Decidable (_ ∧ _))

lemma IsPlain.toNat_lt {c : Char} (h : IsPlain c) : c.toNat < 0x80 := by
  have hlower : (decide ('a'.val ≤ c.val) && decide (c.val ≤ 'z'.val)) = true := h.1
  rw [Bool.and_eq_true, decide_eq_true_eq, decide_eq_true_eq] at hlower
  have := UInt32.le_iff_toNat_le.mp hlower.2
  change c.val.toNat < 0x80
  have hz : ('z'.val).toNat = 122 := rfl
  omega

/-- Every row of capitals but that of the Kelvin sign leads to letters beyond ASCII. -/
lemma capitals_shift : ∀ r ∈ capitals, r.first = 0x212a ∧ r.last = 0x212a ∧ r.shift = -8383 ∨
    0x80 ≤ (r.first : ℤ) + r.shift := by
  decide +kernel

/-- Only ASCII characters have a small form of plain letters. -/
lemma toNat_lt_of_isPlain {c : Char} (h : ∀ x ∈ lowerChar c, IsPlain x) : c.toNat < 0x80 := by
  by_contra hc
  rw [lowerChar, if_neg hc] at h
  by_cases hdot : c.toNat = 0x130
  · rw [if_pos hdot] at h
    exact absurd (h '\u0307' (by simp)) (by decide)
  · rw [if_neg hdot] at h
    cases hrow : capitals.find? fun r => r.covers c.toNat with
    | none =>
        rw [hrow] at h
        exact hc (h c (by simp)).toNat_lt
    | some r =>
        rw [hrow] at h
        have hplain := h _ List.mem_cons_self
        have hcovers : r.first ≤ c.toNat ∧ c.toNat ≤ r.last := by
          have := List.find?_some hrow
          simp only [CaseRow.covers, Bool.and_eq_true, decide_eq_true_eq] at this
          exact this.1
        rcases capitals_shift r (List.mem_of_find?_eq_some hrow) with ⟨hfirst, hlast, hshift⟩ | hfar
        · have hkelvin : (c.toNat + r.shift).toNat = 107 := by omega
          rw [hkelvin] at hplain
          exact absurd hplain (by decide)
        · have hbeyond : 0x80 ≤ (c.toNat + r.shift).toNat := by omega
          generalize (c.toNat + r.shift).toNat = n at hplain hbeyond
          by_cases hvalid : n.isValidChar
          · rw [Char.ofNat, dif_pos hvalid] at hplain
            have : n < 0x80 := hplain.toNat_lt
            omega
          · rw [Char.ofNat, dif_neg hvalid] at hplain
            exact absurd hplain (by decide)

/-- ASCII characters have one small form. -/
lemma lowerChar_of_lt {c : Char} (h : c.toNat < 0x80) : lowerChar c = [c.toLower] := by
  rw [lowerChar, if_pos h]

/-- Characters beyond ASCII are no capitals to the core library. -/
lemma toNat_lt_of_isPlain_toLower {c : Char} (h : IsPlain c.toLower) : c.toNat < 0x80 := by
  by_contra hc
  have hupper : ¬ ('A'.val ≤ c.val ∧ c.val ≤ 'Z'.val) := by
    intro hupper
    have := UInt32.le_iff_toNat_le.mp hupper.2
    have hz : ('Z'.val).toNat = 90 := rfl
    change ¬ c.val.toNat < 0x80 at hc
    omega
  have hcap : c.toLower = c := dif_neg hupper
  rw [hcap] at h
  exact hc h.toNat_lt

/-- A sigma is no plain letter, whichever way it is written. -/
lemma not_isPlain_lowerSigma (letterBefore : Bool) (rest : List Char) :
    ¬ IsPlain (lowerSigma letterBefore rest) := by
  rw [lowerSigma]
  split <;> decide

/-- Any other character is made small by itself. -/
lemma lowerFrom_cons {c : Char} (hc : c ≠ 'Σ') (letterBefore : Bool) (cs : List Char) :
    lowerFrom letterBefore (c :: cs) =
      lowerChar c ++ lowerFrom (if isIgnorable c then letterBefore else isCased c) cs := by
  rw [lowerFrom]
  exact hc

lemma ne_sigma_of_lt {c : Char} (h : c.toNat < 0x80) : c ≠ 'Σ' := by
  rintro rfl
  exact absurd h (by decide)

/-- The small form of an ASCII text is made letter by letter. -/
lemma lowerFrom_of_lt {cs : List Char} (h : ∀ c ∈ cs, c.toNat < 0x80) (letterBefore : Bool) :
    lowerFrom letterBefore cs = cs.map Char.toLower := by
  induction cs generalizing letterBefore with
  | nil => rfl
  | cons c cs ih =>
      have hc := h c List.mem_cons_self
      rw [lowerFrom_cons (ne_sigma_of_lt hc), lowerChar_of_lt hc,
        ih fun x hx => h x (List.mem_cons_of_mem c hx)]
      rfl

/-- Only an ASCII text has a small form of plain letters. -/
lemma toNat_lt_of_isPlain_lowerFrom {cs : List Char} {letterBefore : Bool}
    (h : ∀ x ∈ lowerFrom letterBefore cs, IsPlain x) : ∀ c ∈ cs, c.toNat < 0x80 := by
  induction cs generalizing letterBefore with
  | nil => simp
  | cons c cs ih =>
      by_cases hc : c = 'Σ'
      · subst hc
        exact absurd (h _ List.mem_cons_self) (not_isPlain_lowerSigma letterBefore cs)
      · rw [lowerFrom_cons hc] at h
        intro d hd
        rcases List.mem_cons.mp hd with rfl | hd
        · exact toNat_lt_of_isPlain fun x hx => h x (List.mem_append_left _ hx)
        · exact ih (fun x hx => h x (List.mem_append_right _ hx)) d hd

/-- **Letter case.** A text has a word of plain letters as its small form exactly when it is that word
in ASCII letters of any case. -/
theorem lower_eq_iff {cs w : List Char} (hw : ∀ c ∈ w, IsPlain c) :
    lower cs = w ↔ cs.map Char.toLower = w := by
  constructor
  · rintro rfl
    exact (lowerFrom_of_lt (toNat_lt_of_isPlain_lowerFrom hw) false).symm
  · rintro rfl
    exact lowerFrom_of_lt (fun c hc => toNat_lt_of_isPlain_toLower (hw _ (List.mem_map_of_mem hc))) false

end CronPreview.Text
