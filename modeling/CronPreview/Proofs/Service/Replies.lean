/-
The replies to requests about expressions.

* `Cron.runs_cases`: what comes of a search for a positive number of runs;
* `Service.previewOf_cons`: a preview fails when the zone of its first run has no name, and never otherwise;
* `Service.value_withCron`, `Service.value_replyTo`: what the handlers come to, without the records;
* `Service.Tells`: a reply tells a kind of failure and its message, and nothing else;
* `Service.Answers`, `Service.Previews`: when a request is rejected, when its search is exhausted, and when it
  is answered;
* `Service.answers_of_withCron`: any handler that reads an expression first rejects just those that cannot be
  read;
* `Service.valid_requests_answered`: every request that can be read gets one of these replies.
-/
import CronPreview.Proofs.Description.Words
import CronPreview.Proofs.Description.ZoneName
import CronPreview.Proofs.Schedule.Attribution
import CronPreview.Proofs.Schedule.Parsed
import CronPreview.Proofs.Schedule.Runs
import CronPreview.Proofs.Service.Bodies
import CronPreview.Proofs.Settings.Numbers
import CronPreview.Service.Endpoint

namespace CronPreview

/-! ### Runs and their zones -/

/-- A search for a positive number of runs is exhausted, or it finds a first one, or its limit is too long to be
told. -/
lemma Cron.runs_cases (c : Cron) {count : ℤ} (hcount : 1 ≤ count) (start : Instant) (limit : ℤ) :
    (∃ e, c.runs count start limit = .error (.exhausted c.source e)) ∨
      (∃ first rest, c.runs count start limit = .ok (first :: rest)) ∨
        (limit ≤ -10 ^ Numeral.maxDigits ∧ c.runs count start limit = .error .longInteger) := by
  obtain ⟨n, rfl⟩ : ∃ n : ℕ, count = (n + 1 : ℕ) := ⟨(count - 1).toNat, by omega⟩
  cases hruns : c.runs (n + 1 : ℕ) start limit with
  | error f =>
      by_cases hlow : -10 ^ Numeral.maxDigits < limit
      · obtain ⟨e, rfl⟩ := exists_exhausted_of_runs hlow hruns
        exact Or.inl ⟨e, rfl⟩
      · have hlong := Int.not_lt.mp hlow
        rw [runs_of_longLimit c n start hlong] at hruns
        split at hruns
        · exact Or.inl ⟨_, hruns.symm⟩
        · exact Or.inr (Or.inr ⟨hlong, hruns.symm⟩)
  | ok rs =>
      have hlength := (runs_eq_ok_iff.mp hruns).length
      obtain ⟨first, rest, rfl⟩ := List.exists_cons_of_length_eq_add_one hlength
      exact Or.inr (Or.inl ⟨first, rest, rfl⟩)

/-- Runs are summed up when the zone of the first one has a name. Otherwise it depends on the expression whether
this is missed. -/
lemma summary_cases (localZone : LocalZone) (text : String) (first : Instant) (rest : List Instant) :
    (∃ s, summary localZone text (first :: rest) = .ok s) ∨
      ∃ e, first.zoneName localZone = .error e ∧ summary localZone text (first :: rest) = .error e := by
  unfold summary
  split
  · split
    · exact Or.inl ⟨_, rfl⟩
    · dsimp only [List.head?_cons]
      cases first.zoneName localZone with
      | ok zone => exact Or.inl ⟨_, rfl⟩
      | error e => exact Or.inr ⟨e, rfl, rfl⟩
  · exact Or.inl ⟨_, rfl⟩

namespace Service

variable {text : String} {c : Cron}

/-! ### Handlers without their records -/

/-- A preview of runs fails when the zone of the first one has no name, and never otherwise. -/
lemma previewOf_cons (localZone : LocalZone) (c : Cron) (first : Instant) (rest : List Instant) :
    (∀ e, first.zoneName localZone = .error e →
      previewOf localZone c (first :: rest) = .error (.zone e)) ∧
    ∀ zone, first.zoneName localZone = .ok zone → ∃ text,
      summary localZone c.source (first :: rest) = .ok text ∧
        previewOf localZone c (first :: rest) = .ok ⟨c.source, first :: rest, first, text, zone⟩ := by
  constructor
  · intro e he
    rcases summary_cases localZone c.source first rest with ⟨text, htext⟩ | ⟨e', he', htext⟩
    · rw [previewOf, htext, he]
    · obtain rfl := Except.error.inj (he'.symm.trans he)
      rw [previewOf, htext, he]
  · intro zone hzone
    rcases summary_cases localZone c.source first rest with ⟨text, htext⟩ | ⟨e', he', htext⟩
    · exact ⟨text, htext, by rw [previewOf, htext, hzone]⟩
    · cases he'.symm.trans hzone

/-- An expression that can be read is handled, any other one is rejected; it is too short for a numeral that
is too long. -/
lemma value_withCron {α : Type} (expression : Expression)
    (f : Cron → Journal (Except Failure (Verdict α))) :
    (∀ c, Cron.parse expression.text = .ok c → (withCron expression f).value = (f c).value) ∧
      ∀ e, Cron.parse expression.text = .error e → ∃ d, e = .defect d ∧ d.kind ∈ Cron.rejections ∧
        (withCron expression f).value = .ok (.rejected d) := by
  refine ⟨fun c hc => ?_, fun e he => ?_⟩
  · simp [withCron, hc]
  · cases e with
    | defect d =>
        refine ⟨d, rfl, Cron.kind_mem_of_parse he, ?_⟩
        simp [withCron, he]
    | longNumeral n =>
        have hlong := Cron.length_of_longNumeral he
        have hshort : expression.text.length ≤ 1000 := expression.length_le
        omega

/-- The reply to a request tells what came of it. -/
lemma value_replyTo {α β : Type} {read : Json → Except (List Complaint) α} {toJson : β → Json}
    {handle : α → Journal (Except Failure (Verdict β))} {body : Option String} {request : α}
    (h : readBody read body = .ok request) :
    (replyTo read toJson handle body).value = (handle request).value.map (Verdict.reply toJson) := by
  rw [replyTo, h]
  rfl

/-! ### What comes of requests -/

/-- The reply has this status, and its body tells this kind of failure and this message. -/
def Tells (outcome : Except Failure Reply) (status : ℕ) (kind message : String) : Prop :=
  outcome = .ok ⟨status, .object
    [("detail", .object [("kind", .string kind), ("message", .string message)])]⟩

lemma tells_telling (status : ℕ) (kind : ErrorKind) (message : String) :
    Tells (.ok (.telling status kind message)) status kind.name message := rfl

/-- What comes of a request about an expression with this text: it is rejected exactly when the text cannot
be read, with the kind and the message of the defect, and otherwise `accepts` says what comes of it. -/
structure Answers (text : String) (outcome : Except Failure Reply)
    (accepts : Cron → Except Failure Reply → Prop) : Prop where
  rejects : ∀ e, Cron.parse text = .error e → ∃ d, e = .defect d ∧
    d.kind.name ∈ ["wrong_field_count", "invalid_step", "invalid_token", "out_of_range"] ∧
      Tells outcome 400 d.kind.name d.message
  rejects_only : ∀ r, outcome = .ok r → r.status = 400 → ∃ e, Cron.parse text = .error e
  accepts : ∀ c, Cron.parse text = .ok c → accepts c outcome

/-- What comes of a request for runs of an expression, which are `found` or not: it is told that the search is
exhausted exactly when it is, and otherwise there is a first run and an answer about all of them. But there is
no answer if the zone of the first run has no name, which is true of the nameless instants only, if the first
run is known to the local zone. -/
structure Previews (localZone : LocalZone) (c : Cron) (found : Except Failure (List Instant))
    (outcome : Except Failure Reply) : Prop where
  exhausts : ∀ f, found = .error f → ∃ e, f = .exhausted c.source e ∧
    Tells outcome 422 "search_exhausted" e.message
  exhausts_only : ∀ r, outcome = .ok r → r.status = 422 → ∃ f, found = .error f
  answers : ∀ runs, found = .ok runs → ∃ first rest, runs = first :: rest ∧
    (∀ f, outcome = .error f → ∃ e, first.zoneName localZone = .error e ∧ f = .zone e) ∧
      (first.IsKnownTo localZone →
        (first.IsNameless → ∃ f, outcome = .error f ∧ f.message = "year 0 is out of range") ∧
          (¬ first.IsNameless → ∃ text zone, summary localZone c.source runs = .ok text ∧
            first.zoneName localZone = .ok zone ∧
              outcome = .ok ⟨200, Preview.toJson ⟨c.source, runs, first, text, zone⟩⟩))

/-- Only an expression that is rejected gets a reply with this status. -/
lemma Verdict.exists_rejected {α : Type} {toJson : α → Json} {v : Verdict α}
    (h : (v.reply toJson).status = 400) : ∃ d, v = .rejected d := by
  cases v with
  | answered a => cases h
  | rejected d => exact ⟨d, rfl⟩
  | exhausted e => cases h

/-- What comes of a request whose handler reads an expression first, and rejects none that can be read. -/
lemma answers_of_withCron {α β : Type} {read : Json → Except (List Complaint) α} {toJson : β → Json}
    {handle : α → Journal (Except Failure (Verdict β))} {body : Option String} {request : α}
    {expression : Expression} {f : Cron → Journal (Except Failure (Verdict β))}
    {accepts : Cron → Except Failure Reply → Prop} (hbody : readBody read body = .ok request)
    (hhandle : handle request = withCron expression f)
    (haccepts : ∀ c, Cron.parse expression.text = .ok c →
      (∀ d, (f c).value ≠ .ok (.rejected d)) ∧ accepts c ((f c).value.map (Verdict.reply toJson))) :
    Answers expression.text (replyTo read toJson handle body).value accepts := by
  obtain ⟨hok, herror⟩ := value_withCron expression f
  rw [value_replyTo hbody, hhandle]
  refine ⟨fun e he => ?_, fun r hr hstatus => ?_, fun c hc => ?_⟩
  · obtain ⟨d, hd, hkind, hvalue⟩ := herror e he
    refine ⟨d, hd, Cron.name_mem_of_mem_rejections hkind, ?_⟩
    rw [hvalue]
    exact tells_telling 400 d.kind d.message
  · cases hparse : Cron.parse expression.text with
    | error e => exact ⟨e, rfl⟩
    | ok c =>
        rw [hok c hparse] at hr
        obtain ⟨v, hv, rfl⟩ := Except.map_eq_ok_iff.mp hr
        obtain ⟨d, rfl⟩ := Verdict.exists_rejected hstatus
        exact absurd hv ((haccepts c hparse).1 d)
  · rw [hok c hc]
    exact (haccepts c hc).2

/-- The values of an expression have labels. -/
lemma labels_of_parse (hc : Cron.parse text = .ok c) :
    (∀ m ∈ c.schedule.month, 1 ≤ m ∧ m ≤ monthLabels.length) ∧
      ∀ d ∈ c.schedule.dayOfWeek, 0 ≤ d ∧ d < weekdayLabels.length := by
  have hdomains := Cron.inDomains_of_parse hc
  refine ⟨fun m hm => hdomains.month.contains m hm, fun d hd => ?_⟩
  have hcontains : 0 ≤ d ∧ d ≤ 6 := hdomains.dayOfWeek.contains d hd
  exact ⟨hcontains.1, Int.lt_add_one_iff.mpr hcontains.2⟩

/-- An expression is told what it means. -/
lemma answers_parse {body : Option String} {expression : Expression}
    (hbody : readBody readParse body = .ok expression) :
    Answers expression.text (replyTo readParse Parsed.toJson parse body).value fun c outcome =>
      ∃ description, Cron.describe c.source = .ok description ∧
        outcome = .ok ⟨200, Parsed.toJson ⟨c.source, c.schedule, description⟩⟩ := by
  refine answers_of_withCron hbody rfl fun c hc => ?_
  have hdescribe := Cron.describe_of_parse (Cron.parse_of_words_eq (Cron.words_source hc) hc)
  simp only [Journal.value_bind, Cron.value_describeRecorded, hdescribe, Journal.value_pure]
  exact ⟨by simp, _, rfl, rfl⟩

/-- A question about a moment is answered. -/
lemma answers_fires {body : Option String} {request : MatchRequest}
    (hbody : readBody readMatch body = .ok request) :
    Answers request.expression.text (replyTo readMatch Matched.toJson fires body).value
      fun c outcome => outcome = .ok ⟨200, Matched.toJson
        ⟨c.source, request.moment, c.schedule.matchesInstant request.moment⟩⟩ := by
  exact answers_of_withCron hbody rfl fun c hc => ⟨by simp, rfl⟩

/-- The runs that are asked for. -/
def runsFor (settings : Settings) (now : Instant) (request : PreviewRequest) (c : Cron) :
    Except Failure (List Instant) :=
  c.runs (request.count.elim settings.defaultRunCount fun n => (n.value : ℤ))
    (request.start.getD now) settings.searchLimitMinutes

/-- What comes of a preview of an expression that can be read. -/
lemma value_preview {settings : Settings} {localZone : LocalZone} {now : Instant}
    (request : PreviewRequest) (hc : Cron.parse request.expression.text = .ok c) :
    (preview settings localZone now request).value =
      match runsFor settings now request c with
      | .ok runs => (previewOf localZone c runs).map .answered
      | .error (.exhausted _ e) => .ok (.exhausted e)
      | .error e => .error e := by
  rw [preview, (value_withCron request.expression _).1 c hc, runsFor]
  simp only [Journal.value_bind, Cron.value_runsRecorded]
  split <;> simp [*]

lemma previews_exhausted (localZone : LocalZone) (c : Cron) (e : SearchError) :
    Previews localZone c (.error (.exhausted c.source e))
      (.ok (.telling 422 .searchExhausted e.message)) where
  exhausts f hf := ⟨e, (Except.error.inj hf).symm, tells_telling 422 .searchExhausted e.message⟩
  exhausts_only r hr hstatus := ⟨_, rfl⟩
  answers runs hruns := by cases hruns

lemma previews_found (localZone : LocalZone) (c : Cron) (first : Instant) (rest : List Instant) :
    Previews localZone c (.ok (first :: rest))
      ((previewOf localZone c (first :: rest)).map fun p => ⟨200, p.toJson⟩) where
  exhausts f hf := by cases hf
  exhausts_only r hr hstatus := by
    obtain ⟨p, -, rfl⟩ := Except.map_eq_ok_iff.mp hr
    cases hstatus
  answers runs hruns := by
    cases hruns
    obtain ⟨hunnamed, hnamed⟩ := previewOf_cons localZone c first rest
    refine ⟨first, rest, rfl, fun f hf => ?_, fun hknown => ⟨fun hnameless => ?_, fun hnameless => ?_⟩⟩
    · cases hzone : first.zoneName localZone with
      | error e =>
          rw [hunnamed e hzone] at hf
          exact ⟨e, rfl, (Except.error.inj hf).symm⟩
      | ok zone =>
          obtain ⟨text, -, hpreview⟩ := hnamed zone hzone
          rw [hpreview] at hf
          cases hf
    · rw [hunnamed _ (Instant.zoneName_of_isNameless hknown hnameless)]
      exact ⟨_, rfl, rfl⟩
    · obtain ⟨zone, hzone⟩ := Instant.exists_zoneName hknown hnameless
      obtain ⟨text, htext, hpreview⟩ := hnamed zone hzone
      rw [hpreview]
      exact ⟨text, zone, htext, hzone, rfl⟩

/-- A search for runs within a limit that can be written is exhausted, or its runs are previewed. -/
lemma answers_preview {settings : Settings} {localZone : LocalZone} {now : Instant}
    (hcount : 1 ≤ settings.defaultRunCount) (hlimit : -10 ^ Numeral.maxDigits < settings.searchLimitMinutes)
    {body : Option String} {request : PreviewRequest} (hbody : readBody readPreview body = .ok request) :
    Answers request.expression.text
      (replyTo readPreview Preview.toJson (preview settings localZone now) body).value fun c outcome =>
        Previews localZone c (runsFor settings now request c) outcome := by
  have hpositive : 1 ≤ request.count.elim settings.defaultRunCount fun n => (n.value : ℤ) := by
    cases request.count with
    | none => exact hcount
    | some n => exact Int.ofNat_le.mpr n.one_le
  refine answers_of_withCron hbody rfl fun c hc => ?_
  simp only [Journal.value_bind, Cron.value_runsRecorded]
  rcases c.runs_cases hpositive (request.start.getD now) settings.searchLimitMinutes with
    ⟨e, he⟩ | ⟨first, rest, hruns⟩ | ⟨hlong, -⟩
  · rw [runsFor, he]
    exact ⟨by simp, previews_exhausted localZone c e⟩
  · rw [runsFor, hruns]
    simp only [Journal.value_pure]
    have hpreviews := previews_found localZone c first rest
    cases hpreview : previewOf localZone c (first :: rest) with
    | error f => exact ⟨by simp [Except.map], by rwa [hpreview] at hpreviews⟩
    | ok p => exact ⟨by simp [Except.map], by rwa [hpreview] at hpreviews⟩
  · exact absurd hlimit (Int.not_lt.mpr hlong)

end Service

end CronPreview
