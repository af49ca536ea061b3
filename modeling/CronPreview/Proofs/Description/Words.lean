/-
The words of an expression, which are all that counts of its text.

* `Cron.parse_of_words_eq`: texts with the same words are read as expressions with the same schedule;
* `Cron.parse_related_of_words_eq`: texts with the same words have the same schedule or the same fault;
* `Cron.parse_source`: an expression is read back from the text that is kept of it;
* `Cron.describe_of_parse`: every expression has a description, which is its own or a sentence about its
  schedule.
-/
import CronPreview.Description.Sentence
import CronPreview.Proofs.Text.Joined
import CronPreview.Proofs.Schedule.Grammar

namespace CronPreview.Cron

variable {text other : String} {c : Cron}

/-- A text with the words of an expression is read as an expression with the same schedule. -/
theorem parse_of_words_eq (h : Text.words other.toList = Text.words text.toList)
    (hc : parse text = .ok c) :
    parse other = .ok ⟨String.ofList (Text.trim other.toList), c.schedule⟩ := by
  obtain ⟨-, f₁, f₂, f₃, f₄, f₅, hspread, hmeans⟩ := parse_eq_ok_iff.mp hc
  have hother : Text.Spread other.toList [f₁, f₂, f₃, f₄, f₅] :=
    Text.words_eq_iff.mp (h.trans (Text.words_of_spread hspread))
  exact parse_eq_ok_iff.mpr ⟨rfl, f₁, f₂, f₃, f₄, f₅, hother, hmeans⟩

/-- The faults of two texts are the same, but for the text itself in a fault that is about all of it. -/
inductive SameFault (text other : String) : ParseError → ParseError → Prop
  | refl (f : ParseError) : SameFault text other f f
  | fieldCount : SameFault text other (.defect (.wrongFieldCount text)) (.defect (.wrongFieldCount other))

/-- **Only the words of a text count**: the schedule is read from them, and so is what is wrong with it. -/
theorem parse_related_of_words_eq (h : Text.words other.toList = Text.words text.toList) :
    Except.LiftRel (SameFault text other) (fun c c' => c.schedule = c'.schedule) (parse text)
      (parse other) := by
  rw [parse, parse, h]
  split
  · next f₁ f₂ f₃ f₄ f₅ _ =>
      cases parseFields f₁ f₂ f₃ f₄ f₅ with
      | ok s => exact .ok rfl
      | error f => exact .error (.refl f)
  · exact .error .fieldCount

/-- The text of an expression is kept with all its words. -/
lemma words_source (hc : parse text = .ok c) :
    Text.words c.source.toList = Text.words text.toList := by
  rw [(parse_eq_ok_iff.mp hc).1, String.toList_ofList, Text.words_trim]

/-- **An expression is read back from the text that is kept of it.** -/
theorem parse_source (hc : parse text = .ok c) : parse c.source = .ok c := by
  have hsource := (parse_eq_ok_iff.mp hc).1
  rw [parse_of_words_eq (words_source hc) hc, hsource, String.toList_ofList, Text.trim_trim, ← hsource]

/-- The text that is kept is no longer than the one that was read. -/
lemma length_source_le (hc : parse text = .ok c) : c.source.length ≤ text.length := by
  rw [(parse_eq_ok_iff.mp hc).1, String.length_ofList, ← String.length_toList]
  exact Text.length_trim_le text.toList

/-- The text of an expression has five words. -/
lemma length_words_source (hc : parse text = .ok c) : (Text.words c.source.toList).length = 5 := by
  obtain ⟨-, f₁, f₂, f₃, f₄, f₅, hspread, -⟩ := parse_eq_ok_iff.mp hc
  rw [words_source hc, Text.words_of_spread hspread]
  rfl

/-- Every expression has a description: its own, or a sentence about its schedule. -/
theorem describe_of_parse (hc : parse text = .ok c) :
    describe text = .ok
      ((commonPatterns.lookup (String.ofList (Text.respaced text.toList))).getD
        (sentenceOf c.schedule (Text.words text.toList))) := by
  have hspaced : Text.words (String.ofList (Text.respaced text.toList)).toList =
      Text.words text.toList := by
    rw [String.toList_ofList, Text.words_respaced]
  rw [describe, parse_of_words_eq hspaced hc]
  cases commonPatterns.lookup (String.ofList (Text.respaced text.toList)) <;> rfl

end CronPreview.Cron
