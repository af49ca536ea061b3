/-
Runs on the command line and in answers of the service.

* `Journal.aboveDebug`: the records that are not written for debugging alone;
* `CommandLine.runPreview_of_defect`, `CommandLine.runPreview_of_exhausted`, `CommandLine.runPreview_of_runs`:
  what comes of a preview on the command line, case by case;
* `CommandLine.listing`, `CommandLine.previewLines_eq`: the lines of a preview, made of the texts that the
  service has in its answers;
* `CommandLine.Agree`: both show the same runs, or both refuse for the same reason, or both fail;
* `CommandLine.agree_preview`, `CommandLine.previews_agree`: they always do.
-/
import CronPreview.CommandLine.Program
import CronPreview.Proofs.Description.Summary
import CronPreview.Proofs.Service.Replies

namespace CronPreview

/-! ### Records -/

/-- The records that are not written for debugging alone. -/
def Journal.aboveDebug {α : Type} (x : Journal α) : List Record :=
  x.records.filter fun r => Level.debug.rank < r.level.rank

lemma Journal.aboveDebug_bind {α β : Type} (x : Journal α) (f : α → Journal β) :
    (x >>= f).aboveDebug = x.aboveDebug ++ (f x.value).aboveDebug :=
  List.filter_append ..

/-- Reading is recorded for debugging alone. -/
lemma Cron.aboveDebug_parseRecorded (text : String) : (parseRecorded text).aboveDebug = [] := by
  rw [parseRecorded]
  cases parse text <;> rfl

/-- A failed search is recorded for debugging alone. -/
lemma Cron.aboveDebug_runsRecorded (c : Cron) (count : ℤ) (start : Instant) (limit : ℤ) :
    (c.runsRecorded count start limit).aboveDebug = [] := by
  rw [runsRecorded, recorded.eq_def]
  split <;> rfl

namespace CommandLine

variable {settings : Settings} {localZone : LocalZone} {now : Instant} {text : String} {count : ℤ} {c : Cron}

/-! ### Previews on the command line -/

/-- The command comes to an end with this exit code and these lines of output. -/
def Exits (shown : Journal (Except Failure Result)) (code : ℕ) (output : List String) : Prop :=
  ∃ result, shown.value = .ok result ∧ result.exitCode = some code ∧ result.output = output

/-- The command prints nothing, and its one record that is not for debugging alone is an error that names
the kind of the failure and its message. -/
structure Refuses (shown : Journal (Except Failure Result)) (kind : ErrorKind) (message : String) : Prop where
  exits : Exits shown 1 []
  records : shown.aboveDebug = [⟨.commandLine, .error, kind.name ++ ": " ++ message⟩]

lemma Exits.unique {shown : Journal (Except Failure Result)} {code code' : ℕ} {output output' : List String}
    (h : Exits shown code output) (h' : Exits shown code' output') : code = code' ∧ output = output' := by
  obtain ⟨result, hvalue, hcode, houtput⟩ := h
  obtain ⟨result', hvalue', hcode', houtput'⟩ := h'
  obtain rfl := Except.ok.inj (hvalue.symm.trans hvalue')
  exact ⟨Option.some.inj (hcode.symm.trans hcode'), houtput.symm.trans houtput'⟩

/-- A text that cannot be read is refused for its defect. -/
lemma runPreview_of_defect {d : Defect} (h : Cron.parse text = .error (.defect d)) :
    Refuses (runPreview settings localZone now text count) d.kind d.message where
  exits := ⟨_, by simp only [runPreview, Journal.value_bind, Cron.value_parseRecorded, h]; rfl, rfl, rfl⟩
  records := by
    simp only [runPreview, Journal.aboveDebug_bind, Cron.aboveDebug_parseRecorded,
      Cron.value_parseRecorded, h]
    rfl

/-- An expression without runs is refused for the search that found none. -/
lemma runPreview_of_exhausted {e : SearchError} {source : String} (hc : Cron.parse text = .ok c)
    (h : c.runs count now settings.searchLimitMinutes = .error (.exhausted source e)) :
    Refuses (runPreview settings localZone now text count) .searchExhausted e.message where
  exits := ⟨_, by
    simp only [runPreview, Journal.value_bind, Cron.value_parseRecorded, hc, Cron.value_runsRecorded, h]
    rfl, rfl, rfl⟩
  records := by
    simp only [runPreview, Journal.aboveDebug_bind, Cron.aboveDebug_parseRecorded,
      Cron.value_parseRecorded, hc, Cron.aboveDebug_runsRecorded, Cron.value_runsRecorded, h]
    rfl

/-- A search whose limit is too long to be told is a failure of the command. -/
lemma runPreview_of_longLimit (hc : Cron.parse text = .ok c)
    (h : c.runs count now settings.searchLimitMinutes = .error .longInteger) :
    (runPreview settings localZone now text count).value = .error .longInteger := by
  simp only [runPreview, Journal.value_bind, Cron.value_parseRecorded, hc, Cron.value_runsRecorded, h,
    Journal.value_pure]

/-- Runs that can be summed up are listed. -/
lemma runPreview_of_runs {runs : List Instant} {sentence : String} (hc : Cron.parse text = .ok c)
    (hruns : c.runs count now settings.searchLimitMinutes = .ok runs)
    (hsummary : summary localZone c.source runs = .ok sentence) :
    Exits (runPreview settings localZone now text count) 0 (previewLines runs sentence) := by
  refine ⟨⟨some 0, previewLines runs sentence, none, none⟩, ?_, rfl, rfl⟩
  simp only [runPreview, Journal.value_bind, Cron.value_parseRecorded, hc, Cron.value_runsRecorded, hruns,
    hsummary, Journal.value_pure]

/-! ### Lines made of an answer -/

/-- The texts of runs, each with its number in front, and a summary after them. -/
def listing (formatted : List String) (summary : String) : List String :=
  (formatted.mapIdx fun i text => String.ofList (Numeral.render (i + 1)) ++ ". " ++ text) ++ [summary]

/-- Runs are numbered one after the other. -/
lemma runLines_eq (n : ℕ) (ts : List Instant) :
    runLines n ts = (ts.map Instant.runText).mapIdx fun i text =>
      String.ofList (Numeral.render (i + n)) ++ ". " ++ text := by
  induction ts generalizing n with
  | nil => rfl
  | cons t ts ih =>
      rw [runLines, ih, List.map_cons, List.mapIdx_cons, runLine, Nat.zero_add]
      simp only [Nat.add_right_comm _ 1 n, Nat.add_assoc]

lemma previewLines_eq {sentence : String} (hne : sentence ≠ "") (hline : Text.IsOneLine sentence.toList)
    (runs : List Instant) :
    previewLines runs sentence = listing (runs.map Instant.runText) sentence := by
  have hchars : sentence.toList ≠ [] := by simpa using hne
  rw [previewLines, if_neg hne, runLines_eq, Text.lines_of_isOneLine hline hchars, listing]
  simp

end CommandLine

/-! ### Previews of the service -/

namespace Service

/-- The answer lists this many runs: it has a text for each of them and a summary. The first text is told by
itself, and so is the time of day at its end. -/
structure ShowsRuns (answer : Json) (count : ℕ) (formatted : List String) (summary : String) : Prop where
  formatted_eq : answer.member? "formatted" = some (.array (formatted.map .string))
  length_formatted : formatted.length = count
  summary_eq : answer.member? "summary" = some (.string summary)
  summary_ne : summary ≠ ""
  next_eq : ∃ front clock, formatted.head? = some (front ++ clock) ∧ clock.length = 5 ∧
    answer.member? "next" = some (.string (front ++ clock)) ∧ answer.member? "clock" = some (.string clock)
  runs_eq : ∃ runs, answer.member? "runs" = some (.array runs) ∧ runs.length = count

lemma showsRuns_toJson (c : Cron) (first : Instant) (rest : List Instant) (zone : String) {sentence : String}
    (hne : sentence ≠ "") :
    ShowsRuns (Preview.toJson ⟨c.source, first :: rest, first, sentence, zone⟩) (first :: rest).length
      ((first :: rest).map Instant.runText) sentence where
  formatted_eq := rfl
  length_formatted := List.length_map ..
  summary_eq := rfl
  summary_ne := hne
  next_eq := by
    obtain ⟨front, hfront⟩ := first.exists_front
    refine ⟨front, first.clockText, ?_, first.length_clockText, ?_, rfl⟩
    · rw [← hfront]
      rfl
    · rw [← hfront]
      rfl
  runs_eq := ⟨_, rfl, List.length_map ..⟩

end Service

namespace Service

/-- A reply tells one kind of failure with one message. -/
lemma Tells.unique {outcome : Except Failure Reply} {status status' : ℕ} {kind kind' message message' : String}
    (h : Tells outcome status kind message) (h' : Tells outcome status' kind' message') :
    status = status' ∧ kind = kind' ∧ message = message' := by
  simpa using Except.ok.inj (h.symm.trans h')

end Service

namespace CommandLine

variable {settings : Settings} {localZone : LocalZone} {now : Instant}

/-! ### Agreement -/

/-- What is shown and what is replied agree: the lines are those that can be made of the answer, or else both
tell the same kind of failure with the same message, or both fail as the limit of the search is too long to be
told. -/
inductive Agree (limit : ℤ) (count : ℕ) (shown : Journal (Except Failure Result))
    (replied : Except Failure Service.Reply) : Prop
  | lists {answer : Json} {formatted : List String} {summary : String} :
      Exits shown 0 (listing formatted summary) → replied = .ok ⟨200, answer⟩ →
        Service.ShowsRuns answer count formatted summary → Agree limit count shown replied
  | refuses {status : ℕ} {kind : ErrorKind} {message : String} :
      Refuses shown kind message → Service.Tells replied status kind.name message →
        status = 400 ∨ status = 422 → Agree limit count shown replied
  | fails : limit ≤ -10 ^ Numeral.maxDigits → shown.value = .error .longInteger →
      replied = .error .longInteger → Agree limit count shown replied

/-- A command that fails does not come to an end. -/
lemma Exits.ne_error {shown : Journal (Except Failure Result)} {code : ℕ} {output : List String}
    (h : Exits shown code output) (f : Failure) : shown.value ≠ .error f := by
  obtain ⟨result, hvalue, -⟩ := h
  simp [hvalue]

namespace Agree

variable {limit : ℤ} {count : ℕ} {shown : Journal (Except Failure Result)}
  {replied : Except Failure Service.Reply} {output : List String}

/-- Where the service answers, the command exits with 0 and prints the lines of the answer. -/
lemma of_answer (h : Agree limit count shown replied) {answer : Json}
    (hanswer : replied = .ok ⟨200, answer⟩) :
    ∃ formatted summary, Service.ShowsRuns answer count formatted summary ∧
      Exits shown 0 (listing formatted summary) := by
  cases h with
  | lists hexits hreplied hlists =>
      cases hreplied.symm.trans hanswer
      exact ⟨_, _, hlists, hexits⟩
  | refuses hrefuses hreplied hstatus =>
      cases hreplied.symm.trans hanswer
      omega
  | fails _ _ hreplied => cases hreplied.symm.trans hanswer

/-- Where the service tells a failure, the command exits with 1. -/
lemma exits_of_tells (h : Agree limit count shown replied) {status : ℕ} {kind message : String}
    (hstatus : status = 400 ∨ status = 422) (htells : Service.Tells replied status kind message) :
    Exits shown 1 [] := by
  cases h with
  | lists hexits hreplied hlists =>
      cases hreplied.symm.trans htells
      omega
  | refuses hrefuses _ _ => exact hrefuses.exits
  | fails _ _ hreplied => cases hreplied.symm.trans htells

/-- A command that exits with 1 prints nothing, and records the failure that the service tells. -/
lemma refuses_of_exits (h : Agree limit count shown replied) (hexits : Exits shown 1 output) {status : ℕ}
    {kind message : String} (htells : Service.Tells replied status kind message) :
    output = [] ∧ shown.aboveDebug = [⟨.commandLine, .error, kind ++ ": " ++ message⟩] := by
  cases h with
  | lists hexits' _ _ => cases (hexits.unique hexits').1
  | refuses hrefuses hreplied _ =>
      obtain ⟨-, rfl, rfl⟩ := hreplied.unique htells
      exact ⟨(hexits.unique hrefuses.exits).2, hrefuses.records⟩
  | fails _ hvalue _ => exact absurd hvalue (hexits.ne_error _)

/-- A command that exits with 0 has an answer beside it. -/
lemma exists_answer (h : Agree limit count shown replied) (hexits : Exits shown 0 output) :
    ∃ answer, replied = .ok ⟨200, answer⟩ := by
  cases h with
  | lists _ hreplied _ => exact ⟨_, hreplied⟩
  | refuses hrefuses _ _ => cases (hexits.unique hrefuses.exits).1
  | fails _ hvalue _ => exact absurd hvalue (hexits.ne_error _)

/-- A command that exits with 1 has a failure beside it that is told. -/
lemma exists_tells (h : Agree limit count shown replied) (hexits : Exits shown 1 output) :
    ∃ status kind message, (status = 400 ∨ status = 422) ∧ Service.Tells replied status kind message := by
  cases h with
  | lists hexits' _ _ => cases (hexits.unique hexits').1
  | refuses _ hreplied hstatus => exact ⟨_, _, _, hstatus, hreplied⟩
  | fails _ hvalue _ => exact absurd hvalue (hexits.ne_error _)

/-- The command exits with 0 or 1, or both fail. -/
lemma exits_or_fails (h : Agree limit count shown replied) :
    (∃ code output, Exits shown code output ∧ (code = 0 ∨ code = 1)) ∨
      limit ≤ -10 ^ Numeral.maxDigits ∧ shown.value = .error .longInteger ∧
        replied = .error .longInteger := by
  cases h with
  | lists hexits _ _ => exact Or.inl ⟨0, _, hexits, Or.inl rfl⟩
  | refuses hrefuses _ _ => exact Or.inl ⟨1, [], hrefuses.exits, Or.inr rfl⟩
  | fails hlong hvalue hreplied => exact Or.inr ⟨hlong, hvalue, hreplied⟩

end Agree

/-- The first run is not so early that local time has no name. -/
def StartsLate (runs : List Instant) : Prop :=
  ∀ first ∈ runs.head?, Instant.minuteNumber ⟨1, 1, 2⟩ 0 0 ≤ first.minute

/-- The first run is known to the local zone. -/
def StartsKnown (localZone : LocalZone) (runs : List Instant) : Prop :=
  ∀ first ∈ runs.head?, first.IsKnownTo localZone

/-- From the second day of the calendar on, no run is so early. -/
lemma startsLate_of_le {c : Cron} {count : ℕ} {limit : ℤ} {runs : List Instant}
    (hnow : Instant.minuteNumber ⟨1, 1, 2⟩ 0 0 ≤ now.minute) (hruns : c.runs count now limit = .ok runs) :
    StartsLate runs := by
  intro first hfirst
  have hmem := List.mem_map_of_mem (f := Instant.minute) (List.mem_of_mem_head? hfirst)
  have hafter := (Cron.runs_eq_ok_iff.mp hruns).greedy.from_le _ hmem
  omega

/-- Runs on a local clock are listed by both. -/
lemma agree_of_runs {text : String} {c : Cron} {count : ℕ} {runs : List Instant} (hnow : now.zone = none)
    (hcount : 1 ≤ count) (hc : Cron.parse text = .ok c)
    (hruns : c.runs count now settings.searchLimitMinutes = .ok runs) (hlate : StartsLate runs)
    (hknown : StartsKnown localZone runs) :
    Agree settings.searchLimitMinutes count (runPreview settings localZone now text count)
      ((Service.previewOf localZone c runs).map fun p => ⟨200, p.toJson⟩) := by
  have hlist := Cron.runs_eq_ok_iff.mp hruns
  have hlength := hlist.length
  obtain ⟨first, rest, rfl⟩ := List.exists_cons_of_length_pos (by omega : 0 < runs.length)
  -- runs are shown on the clock of the current time; a local one has a name from the second day on
  have hlocal : first.zone = none := (hlist.clock first List.mem_cons_self).2.2.trans hnow
  have hnamed : ¬ first.IsNameless := fun h => absurd h.2 (Nat.not_lt.mpr (hlate first rfl))
  obtain ⟨zone, hzone⟩ := Instant.exists_zoneName (hknown first rfl) hnamed
  obtain ⟨sentence, hsummary, hpreview⟩ := (Service.previewOf_cons localZone c first rest).2 zone hzone
  obtain ⟨hne, hline⟩ := summary_isOneLine (Cron.length_words_source hc) hlocal hsummary
  have hlists := Service.showsRuns_toJson c first rest zone hne
  have hexits := runPreview_of_runs hc hruns hsummary
  rw [previewLines_eq hne hline] at hexits
  rw [hlength] at hlists
  rw [hpreview]
  exact .lists hexits rfl hlists

/-- **The command line and the service preview every expression alike.** -/
theorem agree_preview (hnow : now.zone = none) (expression : Service.Expression) (count : Service.RunCount)
    (hfirst : ∀ c runs, Cron.parse expression.text = .ok c →
      c.runs count.value now settings.searchLimitMinutes = .ok runs →
        StartsLate runs ∧ StartsKnown localZone runs) :
    Agree settings.searchLimitMinutes count.value
      (runPreview settings localZone now expression.text count.value)
      ((Service.preview settings localZone now ⟨expression, some count, none⟩).value.map
        (Service.Verdict.reply Service.Preview.toJson)) := by
  cases hparse : Cron.parse expression.text with
  | error e =>
      obtain ⟨d, rfl, -, hvalue⟩ := (Service.value_withCron expression _).2 e hparse
      refine .refuses (runPreview_of_defect hparse) ?_ (Or.inl rfl)
      rw [Service.preview, hvalue]
      exact Service.tells_telling 400 d.kind d.message
  | ok c =>
      have hcount : (1 : ℤ) ≤ count.value := Int.ofNat_le.mpr count.one_le
      have hfor : Service.runsFor settings now ⟨expression, some count, none⟩ c =
          c.runs count.value now settings.searchLimitMinutes := rfl
      rw [Service.value_preview ⟨expression, some count, none⟩ hparse, hfor]
      rcases c.runs_cases hcount now settings.searchLimitMinutes with
        ⟨e, he⟩ | ⟨first, rest, hruns⟩ | ⟨hlong, hfail⟩
      · rw [he]
        exact .refuses (runPreview_of_exhausted hparse he)
          (Service.tells_telling 422 .searchExhausted e.message) (Or.inr rfl)
      · obtain ⟨hlate, hknown⟩ := hfirst c _ hparse hruns
        have hagree := agree_of_runs hnow count.one_le hparse hruns hlate hknown
        rw [hruns]
        dsimp only
        cases hpreview : Service.previewOf localZone c (first :: rest) with
        | error f => rwa [hpreview] at hagree
        | ok p => rwa [hpreview] at hagree
      · rw [hfail]
        exact .fails hlong (runPreview_of_longLimit hparse hfail) rfl

end CommandLine

end CronPreview
