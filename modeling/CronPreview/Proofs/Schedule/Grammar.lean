/-
The expressions that can be read, and the schedules for which they stand.

* `Cron.Denotes`: five fields, spread over a text with blanks, stand for the five sets of a schedule;
* `Cron.parse_eq_ok_iff`: an expression that is read is kept without the blanks around it, with the
  schedule for which it stands;
* `Cron.parse_accepts_grammar`: the texts that can be read are the expressions of the grammar.
-/
import CronPreview.Proofs.Field.Denotation
import CronPreview.Schedule.Basic

namespace CronPreview.Cron

/-- The text is spread over five fields that stand for the five sets of the schedule. -/
def Denotes (text : List Char) (s : Schedule) : Prop :=
  ∃ minute hour dayOfMonth month dayOfWeek,
    Text.Spread text [minute, hour, dayOfMonth, month, dayOfWeek] ∧
      Field.Means .minute minute s.minute ∧ Field.Means .hour hour s.hour ∧
        Field.Means .dayOfMonth dayOfMonth s.dayOfMonth ∧ Field.Means .month month s.month ∧
          Field.Means .dayOfWeek dayOfWeek s.dayOfWeek

lemma parseFields_eq_ok_iff {f₁ f₂ f₃ f₄ f₅ : List Char} {s : Schedule} :
    parseFields f₁ f₂ f₃ f₄ f₅ = .ok s ↔
      Field.parse .minute f₁ = .ok s.minute ∧ Field.parse .hour f₂ = .ok s.hour ∧
        Field.parse .dayOfMonth f₃ = .ok s.dayOfMonth ∧ Field.parse .month f₄ = .ok s.month ∧
          Field.parse .dayOfWeek f₅ = .ok s.dayOfWeek := by
  simp only [parseFields, Except.bind_eq_ok_iff]
  constructor
  · rintro ⟨minutes, h₁, hours, h₂, days, h₃, months, h₄, weekdays, h₅, h⟩
    cases h
    exact ⟨h₁, h₂, h₃, h₄, h₅⟩
  · rintro ⟨h₁, h₂, h₃, h₄, h₅⟩
    exact ⟨_, h₁, _, h₂, _, h₃, _, h₄, _, h₅, rfl⟩

/-- Each word that is read as a field stands for the set that is read. -/
lemma fields_iff_denotes {f₁ f₂ f₃ f₄ f₅ : List Char} {s : Schedule}
    (hwords : ∀ w ∈ [f₁, f₂, f₃, f₄, f₅], Text.IsWord w) :
    parseFields f₁ f₂ f₃ f₄ f₅ = .ok s ↔
      Field.Means .minute f₁ s.minute ∧ Field.Means .hour f₂ s.hour ∧
        Field.Means .dayOfMonth f₃ s.dayOfMonth ∧ Field.Means .month f₄ s.month ∧
          Field.Means .dayOfWeek f₅ s.dayOfWeek := by
  have hplain : ∀ d ∈ Domain.all, d.HasPlainNames := fun d hd =>
    Domain.hasPlainNames_of_mem_all hd
  simp only [Domain.all, List.forall_mem_cons] at hplain hwords
  obtain ⟨p₁, p₂, p₃, p₄, p₅, -⟩ := hplain
  obtain ⟨w₁, w₂, w₃, w₄, w₅, -⟩ := hwords
  rw [parseFields_eq_ok_iff, Field.parse_eq_ok_iff p₁ w₁, Field.parse_eq_ok_iff p₂ w₂,
    Field.parse_eq_ok_iff p₃ w₃, Field.parse_eq_ok_iff p₄ w₄, Field.parse_eq_ok_iff p₅ w₅]

/-- **An expression that is read is kept without the blanks around it, with the schedule for which it
stands.** -/
theorem parse_eq_ok_iff {text : String} {c : Cron} :
    parse text = .ok c ↔
      c.source = String.ofList (Text.trim text.toList) ∧ Denotes text.toList c.schedule := by
  rw [parse]
  constructor
  · intro h
    split at h
    · next f₁ f₂ f₃ f₄ f₅ hwords =>
        obtain ⟨s, hs, rfl⟩ := Except.map_eq_ok_iff.mp h
        have hspread := Text.words_eq_iff.mp hwords
        exact ⟨rfl, f₁, f₂, f₃, f₄, f₅, hspread, (fields_iff_denotes hspread.isWord).mp hs⟩
    · cases h
  · rintro ⟨hsource, f₁, f₂, f₃, f₄, f₅, hspread, hmeans⟩
    have hs := (fields_iff_denotes hspread.isWord).mpr hmeans
    rw [Text.words_eq_iff.mpr hspread]
    refine Except.map_eq_ok_iff.mpr ⟨c.schedule, hs, ?_⟩
    rw [← hsource]

/-- A value with a minus sign lies in a domain of an expression only if it is zero. -/
lemma signed_eq_zero {d : Domain} (hd : d ∈ Domain.all) {n : ℕ}
    (h : d.Contains (d.normalize (-(n : ℤ)))) : n = 0 ∧ d.min = 0 := by
  have hmin : ∀ d ∈ Domain.all, 0 ≤ d.min := by decide
  have hnormalize : d.normalize (-(n : ℤ)) = -n := by
    have hne : ¬ (-(n : ℤ)) = 7 := by omega
    simp [Domain.normalize, hne]
  rw [hnormalize, Domain.Contains] at h
  have := hmin d hd
  omega

/-- **The texts that can be read are the expressions of the grammar.** They are spread over five
fields, each a list of items in its own domain, and each set of the schedule holds the values of the
items of its field; a value with a minus sign can only be zero. -/
theorem parse_accepts_grammar (text : String) :
    ((∃ c, parse text = .ok c) ↔
      ∃ fields, Text.Spread text.toList fields ∧
        List.Forall₂ (fun d cs => ∃ is, IsField d cs is) Domain.all fields) ∧
    (∀ c, parse text = .ok c ↔
      c.source = String.ofList (Text.trim text.toList) ∧ Denotes text.toList c.schedule) ∧
    ∀ d ∈ Domain.all, ∀ n : ℕ, d.Contains (d.normalize (-(n : ℤ))) → n = 0 ∧ d.min = 0 := by
  refine ⟨⟨?_, ?_⟩, fun c => parse_eq_ok_iff, fun d hd n h => signed_eq_zero hd h⟩
  · rintro ⟨c, hc⟩
    obtain ⟨-, f₁, f₂, f₃, f₄, f₅, hspread, ⟨is₁, h₁, -⟩, ⟨is₂, h₂, -⟩, ⟨is₃, h₃, -⟩,
      ⟨is₄, h₄, -⟩, ⟨is₅, h₅, -⟩⟩ := parse_eq_ok_iff.mp hc
    exact ⟨_, hspread, .cons ⟨is₁, h₁⟩ (.cons ⟨is₂, h₂⟩ (.cons ⟨is₃, h₃⟩
      (.cons ⟨is₄, h₄⟩ (.cons ⟨is₅, h₅⟩ .nil))))⟩
  · rintro ⟨fields, hspread, hfields⟩
    have hmeans : ∀ {d cs}, (∃ is, IsField d cs is) → ∃ s, Field.Means d cs s := by
      rintro d cs ⟨is, his⟩
      exact ⟨_, is, his, fun x => Field.mem_ofList_values his⟩
    rcases hfields with - | ⟨h₁, - | ⟨h₂, - | ⟨h₃, - | ⟨h₄, - | ⟨h₅, - | -⟩⟩⟩⟩⟩
    obtain ⟨s₁, m₁⟩ := hmeans h₁
    obtain ⟨s₂, m₂⟩ := hmeans h₂
    obtain ⟨s₃, m₃⟩ := hmeans h₃
    obtain ⟨s₄, m₄⟩ := hmeans h₄
    obtain ⟨s₅, m₅⟩ := hmeans h₅
    exact ⟨⟨_, s₁, s₂, s₃, s₄, s₅⟩,
      parse_eq_ok_iff.mpr ⟨rfl, _, _, _, _, _, hspread, m₁, m₂, m₃, m₄, m₅⟩⟩

end CronPreview.Cron
