/-
The sentence that sums up a list of runs.

* `Instant.length_clockText`, `Instant.exists_front`: a run is shown with its time of day at the end;
* `summary_cons`: what is said about runs when the expression has five fields;
* `summary_isOneLine`: on a local clock this is a sentence of one line.
-/
import CronPreview.Description.Summary
import CronPreview.Proofs.Calendar.Clock
import CronPreview.Proofs.Description.ZoneName

namespace CronPreview

open Text

/-! ### Labels -/

/-- A label of a month or of a day is written on one line, and so is the text that stands for none. -/
lemma isOneLine_label {label : String} (h : label ∈ "" :: (monthLabels ++ weekdayLabels)) :
    IsOneLine label.toList := by
  have hlabels : ∀ s ∈ "" :: (monthLabels ++ weekdayLabels),
      (s.toList.all fun c => !isLineEnd c) = true := by decide +kernel
  exact isOneLine_iff_all.mpr (hlabels label h)

lemma isOneLine_monthLabel (m : ℕ) : IsOneLine (monthLabel m).toList := by
  refine isOneLine_label ?_
  rw [monthLabel, List.getD_eq_getElem?_getD]
  cases h : monthLabels[m - 1]? with
  | none => exact List.mem_cons_self
  | some s => exact List.mem_cons_of_mem _ (List.mem_append_left _ (List.mem_of_getElem? h))

lemma isOneLine_weekdayShort (d : ℕ) : IsOneLine (weekdayShort d).toList := by
  rw [weekdayShort, String.toList_ofList, weekdayLabel, List.getD_eq_getElem?_getD]
  refine fun c hc => isOneLine_label ?_ c (List.mem_of_mem_take hc)
  cases h : weekdayLabels[d]? with
  | none => exact List.mem_cons_self
  | some s => exact List.mem_cons_of_mem _ (List.mem_append_right _ (List.mem_of_getElem? h))

/-! ### Runs -/

namespace Instant

variable (t : Instant)

/-- Hours and minutes take two digits each. -/
lemma length_clockText : t.clockText.length = 5 := by
  have hhour := t.hourOfDay_lt
  have hminute := t.minuteOfHour_lt
  have hhours : (Numeral.padded 2 t.hourOfDay).length = 2 :=
    Numeral.length_padded (by omega) (by decide)
  have hminutes : (Numeral.padded 2 t.minuteOfHour).length = 2 :=
    Numeral.length_padded (by omega) (by decide)
  rw [clockText, writeClock, String.length_ofList, List.length_append, List.length_cons, hhours, hminutes]

/-- A run is shown with its time of day at the end. -/
lemma exists_front : ∃ front, t.runText = front ++ t.clockText := ⟨_, rfl⟩

lemma isOneLine_clockText : IsOneLine t.clockText.toList := by
  rw [clockText, writeClock, String.toList_ofList, isOneLine_append, isOneLine_cons]
  exact ⟨isOneLine_padded _ _, by decide, isOneLine_padded _ _⟩

lemma isOneLine_runText : IsOneLine t.runText.toList := by
  have hcomma : IsOneLine ", ".toList := isOneLine_iff_all.mpr (by decide +kernel)
  have hspace : IsOneLine " ".toList := isOneLine_iff_all.mpr (by decide +kernel)
  simp only [runText, String.toList_append, String.toList_ofList, isOneLine_append, hcomma, hspace,
    isOneLine_weekdayShort, isOneLine_monthLabel, isOneLine_padded, isOneLine_render,
    t.isOneLine_clockText, and_self]

end Instant

/-! ### Sentences -/

/-- What is said about runs when the expression has five fields: the time of day if it reads as daily, and
else the first run with the name of its zone, if that has one. -/
lemma summary_cons {text : String} {first : Instant} (h : (words text.toList).length = 5)
    (localZone : LocalZone) (rest : List Instant) :
    summary localZone text (first :: rest) = .ok ("At " ++ first.clockText ++ " every day.") ∨
      summary localZone text (first :: rest) = (first.zoneName localZone).map fun zone =>
        "Next run is " ++ first.runText ++ " (" ++ zone ++ ")." := by
  obtain ⟨f₁, f₂, f₃, f₄, f₅, hwords⟩ : ∃ f₁ f₂ f₃ f₄ f₅, words text.toList = [f₁, f₂, f₃, f₄, f₅] := by
    match words text.toList, h with
    | [f₁, f₂, f₃, f₄, f₅], _ => exact ⟨f₁, f₂, f₃, f₄, f₅, rfl⟩
  rw [summary, hwords]
  by_cases hdaily : readsDaily f₁ f₂ f₃ f₄ f₅ = true
  · exact Or.inl (if_pos hdaily)
  · exact Or.inr (if_neg hdaily)

/-- **Runs on a local clock are summed up in a sentence of one line.** -/
theorem summary_isOneLine {localZone : LocalZone} {text sentence : String} {first : Instant}
    {rest : List Instant} (hwords : (words text.toList).length = 5) (hlocal : first.zone = none)
    (h : summary localZone text (first :: rest) = .ok sentence) :
    sentence ≠ "" ∧ IsOneLine sentence.toList := by
  have hlines : ∀ s ∈ ["At ", " every day.", "Next run is ", " (", ")."],
      (s.toList.all fun c => !isLineEnd c) = true := by decide +kernel
  have hplain : ∀ s ∈ ["At ", " every day.", "Next run is ", " (", ")."],
      IsOneLine s.toList := fun s hs => isOneLine_iff_all.mpr (hlines s hs)
  simp only [List.forall_mem_cons] at hplain
  rcases summary_cons hwords localZone rest with hdaily | hnext
  · obtain rfl := Except.ok.inj (hdaily.symm.trans h)
    refine ⟨by simp, ?_⟩
    simp only [String.toList_append, isOneLine_append, hplain, first.isOneLine_clockText, and_self]
  · rw [hnext, Except.map_eq_ok_iff] at h
    obtain ⟨zone, hzone, rfl⟩ := h
    have hname := Instant.isOneLine_zoneName hlocal hzone
    refine ⟨by simp, ?_⟩
    simp only [String.toList_append, isOneLine_append, hplain, hname, first.isOneLine_runText, and_self]

end CronPreview
