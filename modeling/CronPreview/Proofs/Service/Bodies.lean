/-
Bodies that are written as objects of texts.

* `Service.readBody_eq_ok_iff`: a request is read from the JSON value of a body;
* `Service.readBody_strings`: a body that is an object of texts is read as such.
-/
import CronPreview.Proofs.Json.Objects
import CronPreview.Proofs.Outcome
import CronPreview.Service.Request

namespace CronPreview

namespace Service

/-- A text that is an object is read as a request. -/
lemma readBody_of_object {α : Type} {read : Json → Except (List Complaint) α} {text : String}
    {members : List (String × Json)} (hempty : text ≠ "") (hfront : text.front ≠ '\ufeff')
    (h : Json.read text = .ok (.object members)) :
    readBody read (some text) = (read (.object members)).mapError .complaints := by
  unfold readBody
  split
  · next heq => cases heq
  · next heq => exact absurd (Option.some.inj heq) hempty
  · next heq =>
      obtain rfl := Option.some.inj heq
      simp only [if_neg hfront, h]

/-- A request is read from the JSON value of a body. -/
theorem readBody_eq_ok_iff {α : Type} {read : Json → Except (List Complaint) α} {body : Option String} {x : α} :
    readBody read body = .ok x ↔ ∃ v, readBody .ok body = .ok v ∧ read v = .ok x := by
  unfold readBody
  split
  · simp
  · simp
  · dsimp only
    generalize Json.read _ = outcome
    cases outcome with
    | error e => cases e <;> simp
    | ok v => cases v <;> simp

/-- A text that begins with a brace is not empty, and begins with no mark of the byte order. -/
lemma ne_empty_of_brace (cs : List Char) :
    String.ofList ('\x7b' :: cs) ≠ "" ∧ (String.ofList ('\x7b' :: cs)).front ≠ '\ufeff' := by
  constructor
  · simp
  · rw [String.front_eq, String.front?_eq, String.toList_ofList, List.head?_cons]
    decide

/-- **A body that is an object of texts is read as such**, whatever the texts are. -/
theorem readBody_strings {α : Type} {read : Json → Except (List Complaint) α} {ms : List (String × String)}
    (hne : ms ≠ []) :
    readBody read (some (Json.ofStrings ms).write) = (read (Json.ofStrings ms)).mapError .complaints := by
  obtain ⟨hempty, hfront⟩ := ne_empty_of_brace
    ([','].intercalate (ms.map (Json.memberBy Json.escape)) ++ ['\x7d'])
  have hread := Json.read_write_strings hne
  rw [Json.write_strings] at hread ⊢
  exact readBody_of_object hempty hfront hread

end Service

end CronPreview
