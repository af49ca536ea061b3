/-
What a description tells about the schedule that it describes.

* `commonPatterns_inj`, `head?_commonPatterns`: descriptions of common expressions differ from each other and
  from all sentences of clauses;
* `Cron.schedule_eq_of_sentenceOf`: two schedules with the same sentence are equal;
* `Cron.describe_identifies_schedule`: two schedules with the same description are equal.
-/
import CronPreview.Proofs.Description.Sentence
import CronPreview.Proofs.Description.Words
import CronPreview.Schedule.Matches

namespace CronPreview

/-! ### Common expressions -/

/-- No two common expressions have the same description. -/
lemma commonPatterns_inj : ∀ p ∈ commonPatterns, ∀ q ∈ commonPatterns, p.2 = q.2 → p.1 = q.1 := by
  decide

/-- No common expression is described by a sentence of clauses. -/
lemma head?_commonPatterns : ∀ p ∈ commonPatterns, p.2.toList.head? ≠ some 'R' := by
  decide

lemma mem_commonPatterns {text description : String}
    (h : commonPatterns.lookup text = some description) : (text, description) ∈ commonPatterns := by
  obtain ⟨before, after, heq, -⟩ := List.lookup_eq_some_iff.mp h
  rw [heq]
  exact List.mem_append_right before List.mem_cons_self

namespace Cron

variable {a b : String} {c c' : Cron}

/-! ### Expressions without a description of their own -/

/-- An expression that is not a common one has clauses, and they are proper. -/
lemma clauses_of_lookup_eq_none (h : parse a = .ok c)
    (hlookup : commonPatterns.lookup (String.ofList (Text.respaced a.toList)) = none) :
    ∃ f₁ f₂ f₃ f₄ f₅, Text.words a.toList = [f₁, f₂, f₃, f₄, f₅] ∧
      parseFields f₁ f₂ f₃ f₄ f₅ = .ok c.schedule ∧ clauses c.schedule f₁ f₂ f₃ f₄ f₅ ≠ [] ∧
        ∀ x ∈ clauses c.schedule f₁ f₂ f₃ f₄ f₅, x.IsProper := by
  obtain ⟨-, f₁, f₂, f₃, f₄, f₅, hspread, hmeans⟩ := parse_eq_ok_iff.mp h
  have hwords := Text.words_of_spread hspread
  have hspace : ∀ w ∈ [f₁, f₂, f₃, f₄, f₅], ' ' ∉ w := by
    intro w hw hmem
    have hblank := (hspread.isWord w hw).not_blank ' ' hmem
    revert hblank
    decide
  refine ⟨f₁, f₂, f₃, f₄, f₅, hwords, (fields_iff_denotes hspread.isWord).mpr hmeans, fun hnil => ?_,
    isProper_of_mem_clauses (inDomains_of_parse h) hspace⟩
  rw [Text.respaced, hwords, eq_star_of_clauses_eq_nil hnil] at hlookup
  exact absurd hlookup (by decide)

/-- Fields that are read alike, or for which the sets are known to be equal, make equal schedules. -/
lemma schedule_eq_of_fields {f₁ f₂ f₃ f₄ f₅ g₁ g₂ g₃ g₄ g₅ : List Char} {s s' : Schedule}
    (h : parseFields f₁ f₂ f₃ f₄ f₅ = .ok s) (h' : parseFields g₁ g₂ g₃ g₄ g₅ = .ok s')
    (hfields : f₁ = g₁ ∧ f₂ = g₂ ∧ f₃ = g₃ ∧ (f₄ = g₄ ∨ s.month = s'.month) ∧
      (f₅ = g₅ ∨ s.dayOfWeek = s'.dayOfWeek)) : s = s' := by
  obtain ⟨h₁, h₂, h₃, h₄, h₅⟩ := parseFields_eq_ok_iff.mp h
  obtain ⟨h₁', h₂', h₃', h₄', h₅'⟩ := parseFields_eq_ok_iff.mp h'
  obtain ⟨rfl, rfl, rfl, hmonth, hweekday⟩ := hfields
  have hset : ∀ {d : Domain} {f g : List Char} {s s' : FieldSet}, Field.parse d f = .ok s →
      Field.parse d g = .ok s' → f = g ∨ s = s' → s = s' := by
    rintro d f g s s' hf hg (rfl | rfl)
    · exact Except.ok.inj (hf.symm.trans hg)
    · rfl
  obtain ⟨m, hr, d, mo, w⟩ := s
  obtain ⟨m', hr', d', mo', w'⟩ := s'
  rw [Schedule.mk.injEq]
  exact ⟨hset h₁ h₁' (.inl rfl), hset h₂ h₂' (.inl rfl), hset h₃ h₃' (.inl rfl),
    hset h₄ h₄' hmonth, hset h₅ h₅' hweekday⟩

/-- **A sentence tells its schedule.** -/
theorem schedule_eq_of_sentenceOf (h : parse a = .ok c) (h' : parse b = .ok c')
    (hlookup : commonPatterns.lookup (String.ofList (Text.respaced a.toList)) = none)
    (hlookup' : commonPatterns.lookup (String.ofList (Text.respaced b.toList)) = none)
    (hsentence : sentenceOf c.schedule (Text.words a.toList) =
      sentenceOf c'.schedule (Text.words b.toList)) : c.schedule = c'.schedule := by
  obtain ⟨f₁, f₂, f₃, f₄, f₅, hwords, hfields, hne, hproper⟩ := clauses_of_lookup_eq_none h hlookup
  obtain ⟨g₁, g₂, g₃, g₄, g₅, hwords', hfields', hne', hproper'⟩ :=
    clauses_of_lookup_eq_none h' hlookup'
  rw [hwords, hwords', sentenceOf, sentenceOf] at hsentence
  have hclauses := sentence_inj hne hne' hproper hproper' hsentence
  exact schedule_eq_of_fields hfields hfields' (clauses_inj hclauses)

/-- The sentence about an expression is not the description of a common one. -/
lemma sentenceOf_ne_of_lookup (h : parse a = .ok c)
    (hlookup : commonPatterns.lookup (String.ofList (Text.respaced a.toList)) = none) {text d : String}
    (hcommon : commonPatterns.lookup text = some d) :
    sentenceOf c.schedule (Text.words a.toList) ≠ d := by
  obtain ⟨f₁, f₂, f₃, f₄, f₅, hwords, -, hne, -⟩ := clauses_of_lookup_eq_none h hlookup
  rw [hwords, sentenceOf]
  rintro rfl
  exact head?_commonPatterns _ (mem_commonPatterns hcommon) (head?_sentence hne)

/-- Common expressions with the same description are written with the same words. -/
lemma words_eq_of_lookup {d : String}
    (hlookup : commonPatterns.lookup (String.ofList (Text.respaced a.toList)) = some d)
    (hlookup' : commonPatterns.lookup (String.ofList (Text.respaced b.toList)) = some d) :
    Text.words a.toList = Text.words b.toList := by
  have hspaced := commonPatterns_inj _ (mem_commonPatterns hlookup) _ (mem_commonPatterns hlookup') rfl
  rw [← Text.words_respaced a.toList, ← Text.words_respaced b.toList, String.ofList_inj.mp hspaced]

/-- **A description tells its schedule.** -/
theorem schedule_eq_of_describe (h : parse a = .ok c) (h' : parse b = .ok c')
    (hdescribe : describe a = describe b) : c.schedule = c'.schedule := by
  rw [describe_of_parse h, describe_of_parse h', Except.ok.injEq] at hdescribe
  cases hlookup : commonPatterns.lookup (String.ofList (Text.respaced a.toList)) with
  | none =>
      rw [hlookup] at hdescribe
      cases hlookup' : commonPatterns.lookup (String.ofList (Text.respaced b.toList)) with
      | none =>
          rw [hlookup'] at hdescribe
          exact schedule_eq_of_sentenceOf h h' hlookup hlookup' hdescribe
      | some d' =>
          rw [hlookup'] at hdescribe
          exact absurd hdescribe (sentenceOf_ne_of_lookup h hlookup hlookup')
  | some d =>
      rw [hlookup] at hdescribe
      cases hlookup' : commonPatterns.lookup (String.ofList (Text.respaced b.toList)) with
      | none =>
          rw [hlookup'] at hdescribe
          exact absurd hdescribe.symm (sentenceOf_ne_of_lookup h' hlookup' hlookup)
      | some d' =>
          obtain rfl : d = d' := by rwa [hlookup'] at hdescribe
          have hb := parse_of_words_eq (words_eq_of_lookup hlookup' hlookup) h
          rw [h', Except.ok.injEq] at hb
          rw [hb]

/-- **A description identifies the schedule.** Every expression that can be read has a description, and
two expressions with the same description have the same schedule: schedules that differ at some instant are
never described by the same words. -/
theorem describe_identifies_schedule (h : parse a = .ok c) (h' : parse b = .ok c') :
    ∃ d d', describe a = .ok d ∧ describe b = .ok d' ∧ (d = d' → c.schedule = c'.schedule) ∧
      ∀ t, c.schedule.matchesInstant t ≠ c'.schedule.matchesInstant t → d ≠ d' := by
  obtain ⟨d, hd⟩ : ∃ d, describe a = .ok d := ⟨_, describe_of_parse h⟩
  obtain ⟨d', hd'⟩ : ∃ d', describe b = .ok d' := ⟨_, describe_of_parse h'⟩
  have hsame : d = d' → c.schedule = c'.schedule := by
    rintro rfl
    exact schedule_eq_of_describe h h' (hd.trans hd'.symm)
  exact ⟨d, d', hd, hd', hsame, fun t ht heq => ht (by rw [hsame heq])⟩

/-- A month has one description under its name and under its number, and so it is one schedule. -/
theorem describe_identifies_schedule_january :
    ∃ c c', parse "0 0 * jan *" = .ok c ∧ parse "0 0 * 1 *" = .ok c' ∧
      describe "0 0 * jan *" = describe "0 0 * 1 *" ∧ c.schedule = c'.schedule := by
  obtain ⟨c, hc⟩ : ∃ c, parse "0 0 * jan *" = .ok c := ⟨_, rfl⟩
  obtain ⟨c', hc'⟩ : ∃ c', parse "0 0 * 1 *" = .ok c' := ⟨_, rfl⟩
  obtain ⟨d, d', hd, hd', hsame, -⟩ := describe_identifies_schedule hc hc'
  have hdescribe : describe "0 0 * jan *" = describe "0 0 * 1 *" := rfl
  have hwords : d = d' := by
    rwa [hd, hd', Except.ok.injEq] at hdescribe
  exact ⟨c, c', hc, hc', hdescribe, hsame hwords⟩

end Cron

end CronPreview
