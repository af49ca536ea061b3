/-
What is recorded while expressions are described.

* `Cron.describeRecorded`: the description, which records what was read and what could not be;
* `Cron.value_describeRecorded`: the records do not change the description.
-/
import CronPreview.Description.Sentence
import CronPreview.Journal.Schedule

namespace CronPreview.Cron

/-- Describes a text. A text that has no description of its own is read, which is recorded, and so
is the defect for which it cannot be read. -/
def describeRecorded (text : String) : Journal (Except LongNumeral String) := do
  let words := Text.words text.toList
  let spaced := String.ofList (Text.respaced text.toList)
  match commonPatterns.lookup spaced with
  | some description => return .ok description
  | none =>
    match ← parseRecorded spaced with
    | .ok c => return .ok (sentenceOf c.schedule words)
    | .error (.defect d) =>
      Journal.write .description .debug
        ("Could not describe cron expression '" ++ spaced ++ "': " ++ d.message)
      return .ok spaced
    | .error (.longNumeral n) => return .error n

/-- Recording does not change the description. -/
@[simp] theorem value_describeRecorded (text : String) :
    (describeRecorded text).value = describe text := by
  simp only [describeRecorded, describe]
  cases commonPatterns.lookup (String.ofList (Text.respaced text.toList)) with
  | some description => rfl
  | none =>
    simp only [Journal.value_bind, value_parseRecorded]
    cases parse (String.ofList (Text.respaced text.toList)) with
    | ok c => rfl
    | error e => cases e <;> rfl

end CronPreview.Cron
