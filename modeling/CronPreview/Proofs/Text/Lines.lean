/-
Texts of one line.

* `Text.IsOneLine`: no character of the text ends a line;
* `Text.isOneLine_of_ascii`: the printable ASCII characters end no line;
* `Text.lines_of_isOneLine`: such a text is its own only line.
-/
import CronPreview.Proofs.Text.Numeral
import CronPreview.Text.Lines

namespace CronPreview.Text

variable {cs ds : List Char} {c : Char}

/-- No character of the text ends a line. -/
def IsOneLine (cs : List Char) : Prop := ∀ c ∈ cs, isLineEnd c = false

lemma isOneLine_iff_all : IsOneLine cs ↔ (cs.all fun c => !isLineEnd c) = true := by
  simp [IsOneLine]

lemma isOneLine_append : IsOneLine (cs ++ ds) ↔ IsOneLine cs ∧ IsOneLine ds :=
  List.forall_mem_append

lemma isOneLine_cons : IsOneLine (c :: cs) ↔ isLineEnd c = false ∧ IsOneLine cs :=
  List.forall_mem_cons

/-- A printable ASCII character does not end a line. -/
lemma isLineEnd_of_ascii (h : 0x20 ≤ c.toNat ∧ c.toNat < 0x80) : isLineEnd c = false := by
  obtain ⟨hlow, hhigh⟩ := h
  simp only [isLineEnd, Bool.or_eq_false_iff, Bool.and_eq_false_iff, decide_eq_false_iff_not,
    beq_eq_false_iff_ne]
  omega

lemma isOneLine_of_ascii (h : ∀ c ∈ cs, 0x20 ≤ c.toNat ∧ c.toNat < 0x80) : IsOneLine cs :=
  fun c hc => isLineEnd_of_ascii (h c hc)

lemma isOneLine_of_isDigit (h : ∀ c ∈ cs, c.isDigit = true) : IsOneLine cs := by
  refine isOneLine_of_ascii fun c hc => ?_
  have hdigit := Numeral.toNat_of_isDigit (h c hc)
  omega

/-- Numerals are written on one line. -/
lemma isOneLine_render (n : ℕ) : IsOneLine (Numeral.render n) :=
  isOneLine_of_isDigit fun _ => Numeral.isDigit_of_mem_render

lemma isOneLine_padded (width n : ℕ) : IsOneLine (Numeral.padded width n) :=
  isOneLine_of_isDigit fun _ => Numeral.isDigit_of_mem_padded

/-- Where there is no return, none is joined with a line feed. -/
lemma joinLineEnds_of_isOneLine (h : IsOneLine cs) : joinLineEnds cs = cs := by
  induction cs with
  | nil => rfl
  | cons c cs ih =>
      obtain ⟨hc, hcs⟩ := isOneLine_cons.mp h
      have hreturn : c ≠ '\r' := by
        rintro rfl
        exact absurd hc (by decide)
      rw [joinLineEnds, ih hcs]
      exact fun _ h => absurd h hreturn

/-- **A text of one line is its own only line.** -/
theorem lines_of_isOneLine (h : IsOneLine cs) (hne : cs ≠ []) : lines cs = [cs] := by
  rw [lines, joinLineEnds_of_isOneLine h, pieces_of_forall h]
  simp [hne]

end CronPreview.Text
