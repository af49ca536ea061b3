/-
The blanks of a text, which make no difference.

* `Cron.SameReport`: what a user is told about two texts that cannot be read;
* `Cron.parse_reported_of_words_eq`, `Cron.check_of_words_eq`, `Cron.describe_of_words_eq`,
  `summary_of_words_eq`: a text is read, checked, described and summed up by its words;
* `Cron.spacing_makes_no_difference`: texts that are spread over the same words, with whatever blanks, are all one to
  the readers of expressions.
-/
import CronPreview.Description.Summary
import CronPreview.Failure
import CronPreview.Proofs.Description.Words
import CronPreview.Proofs.Schedule.Attribution

namespace CronPreview

open Except (LiftRel)

/-- Runs are summed up by the words of a text. -/
lemma summary_of_words_eq {text other : String} (h : Text.words text.toList = Text.words other.toList)
    (localZone : LocalZone) (runs : List Instant) :
    summary localZone text runs = summary localZone other runs := by
  rw [summary, summary, h]

namespace Cron

variable {text other : String} {f f' : ParseError}

/-- A user is told the same about the faults of two texts: the same kind and message, and the same token. Only if a
text does not have five fields, the token is each text as it is given. -/
structure SameReport (text other : String) (f f' : ParseError) : Prop where
  kind : (Failure.parse f).kind? = (Failure.parse f').kind?
  message : (Failure.parse f).message = (Failure.parse f').message
  token : (Failure.parse f).kind? ≠ some .wrongFieldCount →
    (Failure.parse f).token? = (Failure.parse f').token?
  wholeText : (Failure.parse f).kind? = some .wrongFieldCount →
    (Failure.parse f).token? = some text ∧ (Failure.parse f').token? = some other

/-- An error about the number of fields is told of the text as it is given. -/
lemma token_of_wrongFieldCount (h : parse text = .error f)
    (hkind : (Failure.parse f).kind? = some .wrongFieldCount) :
    (Failure.parse f).token? = some text := by
  rcases parse_eq_error_iff.mp h with ⟨-, rfl⟩ | ⟨fields, items, d, item, e, -, rfl⟩
  · rfl
  · cases e <;> cases hkind

lemma SameFault.sameReport (hfault : SameFault text other f f') (h : parse text = .error f)
    (h' : parse other = .error f') : SameReport text other f f' := by
  cases hfault with
  | refl f =>
      exact ⟨rfl, rfl, fun _ => rfl, fun hkind =>
        ⟨token_of_wrongFieldCount h hkind, token_of_wrongFieldCount h' hkind⟩⟩
  | fieldCount => exact ⟨rfl, rfl, fun hkind => absurd rfl hkind, fun _ => ⟨rfl, rfl⟩⟩

/-- A text is read by its words: another text with these words has the same schedule, or it is reported alike. -/
lemma parse_reported_of_words_eq (h : Text.words text.toList = Text.words other.toList) :
    LiftRel (SameReport text other) (fun c c' => c.schedule = c'.schedule) (parse text)
      (parse other) := by
  have hparse := parse_related_of_words_eq h.symm
  generalize htext : parse text = outcome at hparse
  generalize hother : parse other = outcome' at hparse
  cases hparse with
  | ok hschedule => exact .ok hschedule
  | error hfault => exact .error (hfault.sameReport htext hother)

/-- A text is checked by its words. -/
lemma check_of_words_eq (h : Text.words text.toList = Text.words other.toList) :
    check text = check other := by
  have hparse := parse_related_of_words_eq h.symm
  rw [check, check]
  generalize parse text = outcome at hparse
  generalize parse other = outcome' at hparse
  cases hparse with
  | ok _ => rfl
  | error hfault =>
      cases hfault with
      | refl f => rfl
      | fieldCount => rfl

/-- A text is described by its words. -/
lemma describe_of_words_eq (h : Text.words text.toList = Text.words other.toList) :
    describe text = describe other := by
  have hspaced : Text.respaced text.toList = Text.respaced other.toList := by
    rw [Text.respaced, Text.respaced, h]
  rw [describe, describe, hspaced, h]

/-- **Blanks make no difference.** Two texts that are spread over the same words, with whatever blanks between and
around them, are expressions with the same schedule; or else neither can be read, and the same is told about both, only
that a text without five fields is told of as it is given. They have the same check and the same description, and any
runs are summed up alike under both, whatever the local zone is. The text that is kept of an expression is read as this expression again. -/
theorem spacing_makes_no_difference :
    (∀ (text other : String) (ws : List (List Char)), Text.Spread text.toList ws →
      Text.Spread other.toList ws →
        LiftRel (SameReport text other) (fun c c' => c.schedule = c'.schedule) (parse text)
            (parse other) ∧
          check text = check other ∧ describe text = describe other ∧
            ∀ localZone runs, summary localZone text runs = summary localZone other runs) ∧
    ∀ (text : String) (c : Cron), parse text = .ok c → parse c.source = .ok c := by
  refine ⟨?_, fun text c hc => parse_source hc⟩
  intro text other ws htext hother
  have hwords : Text.words text.toList = Text.words other.toList :=
    (Text.words_of_spread htext).trans (Text.words_of_spread hother).symm
  exact ⟨parse_reported_of_words_eq hwords, check_of_words_eq hwords, describe_of_words_eq hwords,
    summary_of_words_eq hwords⟩

/-- An expression in wide spaces, with tabs and line ends around it. -/
theorem spacing_makes_no_difference_wide :
    ∃ c c', parse "\t*/5\u30009\u2003* *  mon-fri\n" = .ok c ∧ parse "*/5 9 * * mon-fri" = .ok c' ∧
      c.schedule = c'.schedule ∧ parse c.source = .ok c ∧
        describe "\t*/5\u30009\u2003* *  mon-fri\n" = describe "*/5 9 * * mon-fri" := by
  obtain ⟨c, hc⟩ : ∃ c, parse "\t*/5\u30009\u2003* *  mon-fri\n" = .ok c := ⟨_, rfl⟩
  have hwide : Text.Spread "\t*/5\u30009\u2003* *  mon-fri\n".toList
      ["*/5".toList, ['9'], ['*'], ['*'], "mon-fri".toList] := Text.words_eq_iff.mp rfl
  have hplain : Text.Spread "*/5 9 * * mon-fri".toList
      ["*/5".toList, ['9'], ['*'], ['*'], "mon-fri".toList] := Text.words_eq_iff.mp rfl
  obtain ⟨hparse, -, hdescribe, -⟩ := spacing_makes_no_difference.1 _ _ _ hwide hplain
  obtain ⟨c', hc', hschedule⟩ := hparse.exists_ok hc
  exact ⟨c, c', hc, hc', hschedule, spacing_makes_no_difference.2 _ c hc, hdescribe⟩

end Cron

end CronPreview
