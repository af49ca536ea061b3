/-
The labels of a description, and those with which the runs of an expression are shown.

* `FieldSet.labels`, `IsLookedUp`: the labels of the values of a set, looked up one by one in a table;
* `Lists`: there is a clause about a field unless the field is a lone star, and it lists given labels;
* `lists_months`, `lists_weekdays`: the clauses of an expression list the labels of its months and of its days
  of the week;
* `Instant.IsShownWith`: an instant is shown with labels out of given ones;
* `Cron.description_has_labels_of_runs`: a description lists the labels of all months and days of the week at
  which the expression fires, and every run is shown with such labels.
-/
import CronPreview.Description.Run
import CronPreview.Proofs.Description.Decoding
import CronPreview.Proofs.Schedule.Runs

namespace CronPreview

/-! ### Labels of sets -/

/-- The labels of the values of a set, in increasing order of the values. -/
def FieldSet.labels (label : ℕ → String) (s : FieldSet) : List String :=
  s.toList.map fun v => label v.toNat

lemma FieldSet.mem_labels {label : ℕ → String} {s : FieldSet} {n : ℕ} (h : (n : ℤ) ∈ s) :
    label n ∈ s.labels label :=
  List.mem_map.mpr ⟨n, h, rfl⟩

/-- These are the labels of the values of a set in a table that begins with the label of `first`: they are
looked up one by one, in increasing order of the values, none of which lies outside the table, and no label
comes twice. -/
structure IsLookedUp (table : List String) (first : ℤ) (s : FieldSet) (labels : List String) :
    Prop where
  increasing : s.toList.Pairwise (· < ·)
  first_le : ∀ v ∈ s, first ≤ v
  looked_up : labels.map some = s.toList.map fun v => table[(v - first).toNat]?
  nodup : labels.Nodup

/-- **The labels of a set are looked up in the table of its domain.** -/
theorem IsLabelling.isLookedUp {d : Domain} {label : ℕ → String} {table : List String}
    (hd : IsLabelling d label)
    (htable : ∀ v ∈ Finset.Icc d.min d.max, some (label v.toNat) = table[(v - d.min).toNat]?)
    {s : FieldSet} (hs : Field.InDomain d s) : IsLookedUp table d.min s (s.labels label) := by
  have hmem : ∀ v ∈ s.toList, v ∈ Finset.Icc d.min d.max := fun v hv =>
    Finset.mem_Icc.mpr (hs.contains v hv)
  refine ⟨s.increasing, fun v hv => (hs.contains v hv).1, ?_, ?_⟩
  · rw [FieldSet.labels, List.map_map]
    exact List.map_congr_left fun v hv => htable v (hmem v hv)
  · have hnodup : s.toList.Nodup := s.increasing.imp fun hlt => Int.ne_of_lt hlt
    exact hnodup.map_on fun v hv w hw heq => hd.inj v (hmem v hv) w (hmem w hw) heq

lemma isLookedUp_months {s : FieldSet} (hs : Field.InDomain .month s) :
    IsLookedUp monthLabels 1 s (s.labels monthLabel) :=
  isLabelling_monthLabel.isLookedUp (by decide) hs

lemma isLookedUp_weekdays {s : FieldSet} (hs : Field.InDomain .dayOfWeek s) :
    IsLookedUp weekdayLabels 0 s (s.labels weekdayLabel) :=
  isLabelling_weekdayLabel.isLookedUp (by decide) hs

/-! ### Clauses that list labels -/

/-- Among the clauses there is one about this field, unless the field is a lone star, and only then; after
`preposition` it lists these labels. -/
structure Lists (cs : List Clause) (d : Domain) (field : List Char) (preposition : String)
    (labels : List String) : Prop where
  exists_iff : (∃ c ∈ cs, c.domain = d) ↔ field ≠ ['*']
  text_eq : ∀ c ∈ cs, c.domain = d → c.text = preposition ++ ", ".intercalate labels

/-- Clauses that stand in the places of their fields come in the order of the fields, one a field at most. -/
lemma InPlaces.sublist {ds : List Domain} {os : List (Option Clause)} (h : InPlaces ds os) :
    ((os.filterMap id).map Clause.domain).Sublist ds := by
  induction h with
  | nil => exact List.Sublist.refl []
  | @cons d o ds os ho _ ih =>
      cases o with
      | none => exact ih.cons d
      | some c =>
          rw [← ho c rfl]
          exact ih.cons_cons c.domain

section clauses

variable {s : Schedule} {minute hour dayOfMonth month dayOfWeek : List Char}

/-- A clause that stands in the place of its field lists what it says. -/
lemma lists_of_place {i : ℕ} {d : Domain} {field : List Char} {c : Clause} {preposition : String}
    {labels : List String} (hd : Domain.all[i]? = some d)
    (hplace : (placedClauses s minute hour dayOfMonth month dayOfWeek)[i]? = some (clause? field c))
    (htext : c.text = preposition ++ ", ".intercalate labels) :
    Lists (clauses s minute hour dayOfMonth month dayOfWeek) d field preposition labels := by
  have hiff : ∀ {x}, x ∈ clauses s minute hour dayOfMonth month dayOfWeek ∧ x.domain = d ↔
      field ≠ ['*'] ∧ c = x := by
    intro x
    have hmem := (inPlaces_placedClauses s minute hour dayOfMonth month dayOfWeek).mem_and_domain_iff
      (by decide) hd hplace (c := x)
    refine hmem.trans ?_
    by_cases hfield : field = ['*'] <;> simp [clause?, hfield]
  constructor
  · simp [hiff]
  · intro x hx hdomain
    obtain ⟨-, rfl⟩ := hiff.mp ⟨hx, hdomain⟩
    exact htext

lemma lists_months : Lists (clauses s minute hour dayOfMonth month dayOfWeek) .month month "in "
    (s.month.labels monthLabel) :=
  lists_of_place (i := 3) rfl rfl rfl

lemma lists_weekdays : Lists (clauses s minute hour dayOfMonth month dayOfWeek) .dayOfWeek dayOfWeek
    "on " (s.dayOfWeek.labels weekdayLabel) :=
  lists_of_place (i := 4) rfl rfl rfl

end clauses

/-! ### Labels of runs -/

/-- The instant is shown with a month out of `months`, and before it with the first three letters of a day
of the week out of `weekdays`. -/
def Instant.IsShownWith (t : Instant) (months weekdays : List String) : Prop :=
  ∃ month ∈ months, ∃ weekday ∈ weekdays, ∃ rest,
    t.runText = String.ofList (weekday.toList.take 3) ++ ", " ++ month ++ " " ++ rest ∧
      3 ≤ weekday.length ∧ month.length = 3

/-- All labels of months have three letters, and all labels of days of the week have at least three. -/
lemma length_labels : (∀ l ∈ monthLabels, l.length = 3) ∧ ∀ l ∈ weekdayLabels, 3 ≤ l.length := by
  decide

/-- **A schedule is shown with its own labels** whenever it fires. -/
theorem Schedule.isShownWith {s : Schedule} (hs : s.InDomains) {t : Instant}
    (h : s.matchesInstant t = true) :
    t.IsShownWith (s.month.labels monthLabel) (s.dayOfWeek.labels weekdayLabel) := by
  obtain ⟨-, -, -, hmonth, hweekday⟩ := firesAt_iff.mp h
  have hlabels : ∀ {first s table} {labels : List String}, IsLookedUp table first s labels →
      ∀ l ∈ labels, l ∈ table := by
    intro first s table labels hlookedUp l hl
    have hsome := List.mem_map_of_mem (f := some) hl
    rw [hlookedUp.looked_up] at hsome
    obtain ⟨v, -, hv⟩ := List.mem_map.mp hsome
    exact List.mem_of_getElem? hv
  have hm : monthLabel t.date.month ∈ s.month.labels monthLabel := FieldSet.mem_labels hmonth
  have hw : weekdayLabel t.dayOfWeek ∈ s.dayOfWeek.labels weekdayLabel :=
    FieldSet.mem_labels hweekday
  refine ⟨_, hm, _, hw, String.ofList (Numeral.padded 2 t.date.day) ++ ", "
      ++ String.ofList (Numeral.render t.date.year) ++ ", " ++ t.clockText, ?_,
    length_labels.2 _ (hlabels (isLookedUp_weekdays hs.dayOfWeek) _ hw),
    length_labels.1 _ (hlabels (isLookedUp_months hs.month) _ hm)⟩
  rw [Instant.runText, weekdayShort]
  simp only [String.append_assoc]

namespace Cron

variable {text : String} {c : Cron}

/-- **A description agrees with the runs of the expression.** If an expression is not a common one, its
description is a sentence of at least one clause, and of one clause a field at most. It has a clause about
the months exactly when the fourth field is not a lone star, and this clause lists the labels of all months at
which the expression fires, each looked up in its place; the same is true of the fifth field and the days of
the week. And every run, after whatever start it was searched for, is shown with a month and a day of the week
of which the labels are among these. -/
theorem description_has_labels_of_runs (hc : parse text = .ok c)
    (hcommon : commonPatterns.lookup (String.ofList (Text.respaced text.toList)) = none) :
    ∃ minute hour dayOfMonth month dayOfWeek, ∃ cs : List Clause, ∃ months weekdays : List String,
      Text.words text.toList = [minute, hour, dayOfMonth, month, dayOfWeek] ∧ cs ≠ [] ∧
      (cs.map Clause.domain).Sublist Domain.all ∧
      describe text = .ok ("Runs " ++ ", ".intercalate (cs.map Clause.text)) ∧
      Lists cs .month month "in " months ∧ IsLookedUp monthLabels 1 c.schedule.month months ∧
      Lists cs .dayOfWeek dayOfWeek "on " weekdays ∧
      IsLookedUp weekdayLabels 0 c.schedule.dayOfWeek weekdays ∧
      ∀ count start limit runs, c.runs count start limit = .ok runs →
        ∀ r ∈ runs, r.IsShownWith months weekdays := by
  obtain ⟨f₁, f₂, f₃, f₄, f₅, hwords, -, hne, -⟩ := clauses_of_lookup_eq_none hc hcommon
  have hs := inDomains_of_parse hc
  have hdescribe := describe_of_parse hc
  rw [hcommon, hwords, Option.getD_none, sentenceOf, sentence_of_ne_nil hne] at hdescribe
  refine ⟨f₁, f₂, f₃, f₄, f₅, _, _, _, hwords, hne,
    (inPlaces_placedClauses c.schedule f₁ f₂ f₃ f₄ f₅).sublist, hdescribe, lists_months,
    isLookedUp_months hs.month, lists_weekdays, isLookedUp_weekdays hs.dayOfWeek, ?_⟩
  intro count start limit runs hruns r hr
  exact Schedule.isShownWith hs (matchesInstant_of_mem_runs hruns hr)

/-- The description of the Fridays of summer. -/
theorem description_has_labels_of_runs_summer :
    ∃ c, parse "0 12 * jun-aug fri" = .ok c ∧
      ∃ cs months weekdays, describe "0 12 * jun-aug fri" =
          .ok ("Runs " ++ ", ".intercalate (cs.map Clause.text)) ∧
        Lists cs .month "jun-aug".toList "in " months ∧ Lists cs .dayOfWeek "fri".toList "on " weekdays ∧
          ∀ count start limit runs, c.runs count start limit = .ok runs →
            ∀ r ∈ runs, r.IsShownWith months weekdays := by
  obtain ⟨c, hc⟩ : ∃ c, parse "0 12 * jun-aug fri" = .ok c := ⟨_, rfl⟩
  obtain ⟨f₁, f₂, f₃, f₄, f₅, cs, months, weekdays, hwords, -, -, hdescribe, hmonths, -, hweekdays, -,
    hruns⟩ := description_has_labels_of_runs hc rfl
  obtain ⟨-, -, -, rfl, rfl⟩ : f₁ = "0".toList ∧ f₂ = "12".toList ∧ f₃ = "*".toList ∧
      f₄ = "jun-aug".toList ∧ f₅ = "fri".toList := by
    have hfields : Text.words "0 12 * jun-aug fri".toList =
        ["0".toList, "12".toList, "*".toList, "jun-aug".toList, "fri".toList] := rfl
    rw [hfields] at hwords
    simpa [eq_comm] using hwords
  exact ⟨c, hc, cs, months, weekdays, hdescribe, hmonths, hweekdays, hruns⟩

end Cron

end CronPreview
