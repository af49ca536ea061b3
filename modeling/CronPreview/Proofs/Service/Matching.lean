/-
Previews and questions about single moments.

* `Service.Asks`: a body asks whether an expression fires at a moment; `Service.asks_write` says that every
  such question can be asked;
* `Service.Says`: whoever asks is told this, and the expression and the moment are repeated;
* `Service.says_iso`: an expression is compared with the moment that is written;
* `Service.exists_runs_of_answered`: the runs behind a preview that is answered;
* `Instant.LeavesOut`: the minutes before the first of some runs, and those between them but for the first
  minute after each run;
* `Service.previewed_runs_fire`: the expression fires at the runs of a preview, and not at what they leave out.
-/
import CronPreview.Proofs.Service.Moments
import CronPreview.Proofs.Service.Replies

namespace CronPreview

namespace Service

variable {source moment : String} {fires : Bool} {c : Cron} {body : Option String}

/-! ### Questions -/

/-- The body asks whether this expression fires at this moment. -/
def Asks (body : Option String) (source moment : String) : Prop :=
  ∃ v, readBody .ok body = .ok v ∧ v.member? "expression" = some (.string source) ∧
    v.member? "at" = some (.string moment)

/-- Every question can be asked. -/
lemma asks_write (source moment : String) :
    Asks (some (Json.ofStrings [("expression", source), ("at", moment)]).write) source moment :=
  ⟨_, readBody_strings (by simp), rfl, rfl⟩

/-- A question is read as a request when its expression is not too long and its moment can be read. -/
lemma Asks.readBody_eq (h : Asks body source moment) (hlength : source.length ≤ maxLength) {t : Instant}
    (ht : readMoment (.string moment) = .ok t) : readBody readMatch body = .ok ⟨⟨source, hlength⟩, t⟩ := by
  obtain ⟨v, hbody, hsource, hmoment⟩ := h
  refine readBody_eq_ok_iff.mpr ⟨v, hbody, ?_⟩
  simp only [readMatch, hsource, hmoment, readExpression, readAt, dif_pos hlength, ht]

/-- Whoever asks whether the expression fires at the moment is told this. There is a body that asks it, and any
such body gets the same reply, in which the expression and the moment are repeated. -/
structure Says (source moment : String) (fires : Bool) : Prop where
  asked : ∃ body, Asks body source moment
  told : ∀ conditions body, Asks body source moment → (reply conditions body .fires).value =
    .ok ⟨200, .object [("expression", .string source), ("at", .string moment), ("matches", .bool fires)]⟩

/-- An expression is compared with the moment that is written. -/
theorem says_iso (hc : Cron.parse source = .ok c) (hsource : c.source = source)
    (hlength : source.length ≤ maxLength) {t : Instant} (ht : t.HasWholeOffset) :
    Says source t.iso (c.schedule.matchesInstant t) where
  asked := ⟨_, asks_write source t.iso⟩
  told conditions body hasks := by
    have hbody := hasks.readBody_eq hlength (readMoment_iso ht)
    have hreply := (answers_fires hbody).accepts c hc
    rw [reply, hreply, Matched.toJson, hsource, t.iso_asMessage]
    rfl

/-! ### Previews -/

/-- A preview that is made is one of these runs. -/
lemma eq_of_previewOf {localZone : LocalZone} {runs : List Instant} {p : Preview}
    (h : previewOf localZone c runs = .ok p) : p.source = c.source ∧ p.runs = runs := by
  cases runs with
  | nil => cases h
  | cons first rest =>
      obtain ⟨hunnamed, hnamed⟩ := previewOf_cons localZone c first rest
      cases hzone : first.zoneName localZone with
      | error e => cases h.symm.trans (hunnamed e hzone)
      | ok zone =>
          obtain ⟨text, -, hpreview⟩ := hnamed zone hzone
          obtain rfl := Except.ok.inj (hpreview.symm.trans h)
          exact ⟨rfl, rfl⟩

/-- An answer is an answer to a request that can be read. -/
lemma exists_request_of_answered {α β : Type} {read : Json → Except (List Complaint) α} {toJson : β → Json}
    {handle : α → Journal (Except Failure (Verdict β))} {answer : Json}
    (h : (replyTo read toJson handle body).value = .ok ⟨200, answer⟩) :
    ∃ request p, readBody read body = .ok request ∧ (handle request).value = .ok (.answered p) ∧
      answer = toJson p := by
  cases hbody : readBody read body with
  | error refusal =>
      rw [replyTo, hbody] at h
      cases refusal <;> cases h
  | ok request =>
      rw [value_replyTo hbody, Except.map_eq_ok_iff] at h
      obtain ⟨v, hv, hreply⟩ := h
      cases v with
      | answered p =>
          cases hreply
          exact ⟨request, p, rfl, hv, rfl⟩
      | rejected d => cases hreply
      | exhausted e => cases hreply

/-- **Behind a preview that is answered there are runs of an expression.** -/
theorem exists_runs_of_answered {conditions : Conditions} {answer : Json}
    (h : (reply conditions body .preview).value = .ok ⟨200, answer⟩) :
    ∃ request c runs, readBody readPreview body = .ok request ∧
      Cron.parse request.expression.text = .ok c ∧
      runsFor conditions.settings conditions.now request c = .ok runs ∧
      answer.member? "expression" = some (.string c.source) ∧
      answer.member? "runs" = some (.array (runs.map fun r => .string r.iso)) := by
  obtain ⟨request, p, hbody, hhandle, rfl⟩ := exists_request_of_answered h
  cases hparse : Cron.parse request.expression.text with
  | error e =>
      obtain ⟨d, -, -, hvalue⟩ := (value_withCron request.expression _).2 e hparse
      rw [preview, hvalue] at hhandle
      cases hhandle
  | ok c =>
      rw [value_preview request hparse] at hhandle
      split at hhandle
      · next runs hruns =>
          obtain ⟨p', hp', heq⟩ := Except.map_eq_ok_iff.mp hhandle
          cases heq
          obtain ⟨hsource, rfl⟩ := eq_of_previewOf hp'
          exact ⟨request, c, p.runs, hbody, hparse, hruns,
            congrArg (fun s => some (Json.string s)) hsource, rfl⟩
      · cases hhandle
      · cases hhandle

/-- A search that is asked for begins on a clock that lies whole minutes from UTC, if the current time is shown
on such a clock. -/
lemma hasWholeOffset_of_readPreview {now : Instant} (hnow : now.HasWholeOffset) {request : PreviewRequest}
    (h : readBody readPreview body = .ok request) : (request.start.getD now).HasWholeOffset := by
  obtain ⟨v, -, hread⟩ := readBody_eq_ok_iff.mp h
  rw [readPreview] at hread
  split at hread
  · next start hexpression hcount hstart =>
      cases hread
      cases start with
      | none => exact hnow
      | some t =>
          unfold readStart at hstart
          split at hstart
          · cases hstart
          · cases hstart
          · obtain ⟨t', ht', heq⟩ := Except.map_eq_ok_iff.mp hstart
            cases heq
            exact hasWholeOffset_of_readMoment ht'
  · cases hread

end Service

/-! ### Runs and what they leave out -/

/-- The runs from `start` on leave out this instant: it is in a minute after that of `start` and before the
first run, or it is in a minute between two neighbours, but not in the first one after a run. -/
def Instant.LeavesOut (start : Instant) (runs : List Instant) (u : Instant) : Prop :=
  (∃ r, runs.head? = some r ∧ start.minute < u.minute ∧ u.minute < r.minute) ∨
    ∃ i r r', runs[i]? = some r ∧ runs[i + 1]? = some r' ∧ r.minute + 1 < u.minute ∧ u.minute < r'.minute

/-- A schedule does not fire at an instant that its runs leave out. -/
lemma Schedule.RunList.matchesInstant_eq_false {s : Schedule} {start u : Instant} {limit : ℤ} {n : ℕ}
    {runs : List Instant} (h : s.RunList start limit n runs) (hu : start.LeavesOut runs u) :
    s.matchesInstant u = false := by
  rcases hu with ⟨r, hr, hafter, hbefore⟩ | ⟨i, r, r', hr, hr', hafter, hbefore⟩
  · have hhead : (runs.map Instant.minute).head? = some r.minute := by rw [List.head?_map, hr]; rfl
    exact h.greedy.firesAt_before hhead hafter hbefore
  · have hi : (runs.map Instant.minute)[i]? = some r.minute := by rw [List.getElem?_map, hr]; rfl
    have hi' : (runs.map Instant.minute)[i + 1]? = some r'.minute := by rw [List.getElem?_map, hr']; rfl
    exact h.greedy.firesAt_between hi hi' hafter hbefore

namespace Service

variable {body : Option String}

/-- **The runs of a preview are minutes at which the expression fires.** Whoever asks about the expression and
a run of an answer, both as they are written there, is told that it fires. Whoever asks about a minute that the
runs leave out, on the same clock or on a local one, is told that it does not. -/
theorem previewed_runs_fire (conditions : Conditions) (hnow : conditions.now.HasWholeOffset)
    (body : Option String) (answer : Json)
    (hanswer : (reply conditions body .preview).value = .ok ⟨200, answer⟩) :
    ∃ request source runs, readBody readPreview body = .ok request ∧
      answer.member? "expression" = some (.string source) ∧
      answer.member? "runs" = some (.array (runs.map fun r => .string r.iso)) ∧
      (∀ r ∈ runs, Says source r.iso true) ∧
      ∀ u : Instant, u.zone = (request.start.getD conditions.now).zone ∨ u.zone = none →
        (request.start.getD conditions.now).LeavesOut runs u → Says source u.iso false := by
  obtain ⟨request, c, runs, hbody, hparse, hruns, hsource, hlist⟩ := exists_runs_of_answered hanswer
  have hstart := hasWholeOffset_of_readPreview hnow hbody
  obtain ⟨n, hrunList⟩ := Cron.exists_runList hruns
  have hlength : c.source.length ≤ maxLength :=
    Nat.le_trans (Cron.length_source_le hparse) request.expression.length_le
  -- the text that is kept of an expression is read as the same expression, so only the moment matters
  have hsays : ∀ t : Instant, t.HasWholeOffset → Says c.source t.iso (c.schedule.matchesInstant t) :=
    fun t ht => says_iso (Cron.parse_source hparse) rfl hlength ht
  refine ⟨request, c.source, runs, hbody, hsource, hlist, fun r hr => ?_, fun u hzone hleft => ?_⟩
  · have hwhole : r.HasWholeOffset := by
      rw [Instant.HasWholeOffset, (hrunList.clock r hr).2.2]
      exact hstart
    have hfires := Cron.matchesInstant_of_mem_runs hruns hr
    exact hfires ▸ hsays r hwhole
  · have hwhole : u.HasWholeOffset := by
      rcases hzone with hzone | hzone
      · rw [Instant.HasWholeOffset, hzone]
        exact hstart
      · simp [Instant.HasWholeOffset, hzone]
    have hfires := hrunList.matchesInstant_eq_false hleft
    exact hfires ▸ hsays u hwhole

/-- A request for two runs of an expression that fires every five minutes. -/
def everyFiveMinutes : Option String :=
  some (Json.ofStrings [("expression", "*/5 * * * *"), ("count", "2")]).write

/-- The two runs of this request are minutes at which its expression fires, on a local clock. -/
theorem previewed_runs_fire_everyFiveMinutes :
    let conditions : Conditions :=
      ⟨.standard, .utc, { minute := 1000000000, minute_lt := by decide }, (0, 0)⟩
    ∃ (answer : Json) (runs : List Instant),
      (reply conditions everyFiveMinutes .preview).value = .ok ⟨200, answer⟩ ∧
        answer.member? "runs" = some (.array (runs.map fun r => .string r.iso)) ∧
          runs.length = 2 ∧ ∀ r ∈ runs, Says "*/5 * * * *" r.iso true := by
  intro conditions
  have hbody : readBody readPreview everyFiveMinutes =
      .ok ⟨⟨"*/5 * * * *", by decide⟩, some ⟨2, by decide, by decide⟩, none⟩ := by
    rw [everyFiveMinutes, readBody_strings (by simp)]
    rfl
  obtain ⟨c, first, second, hc, hsource, hruns, hlate⟩ : ∃ c first second,
      Cron.parse "*/5 * * * *" = .ok c ∧ c.source = "*/5 * * * *" ∧
        runsFor .standard { minute := 1000000000, minute_lt := by decide }
          ⟨⟨"*/5 * * * *", by decide⟩, some ⟨2, by decide, by decide⟩, none⟩ c = .ok [first, second] ∧
            Instant.minuteNumber ⟨1, 1, 2⟩ 0 0 ≤ first.minute :=
    ⟨_, _, _, rfl, rfl, rfl, by decide⟩
  obtain ⟨zone, hzone⟩ := Instant.exists_zoneName (z := .utc) (t := first) (fun _ => Or.inl rfl)
    fun hnameless => absurd hnameless.2 (Nat.not_lt.mpr hlate)
  obtain ⟨text, -, hpreview⟩ := (previewOf_cons .utc c first [second]).2 zone hzone
  have hanswer : (reply conditions everyFiveMinutes .preview).value =
      .ok ⟨200, Preview.toJson ⟨c.source, [first, second], first, text, zone⟩⟩ := by
    have hfound : runsFor conditions.settings conditions.now _ c = .ok [first, second] := hruns
    rw [reply, value_replyTo hbody, value_preview _ hc, hfound]
    dsimp only
    rw [hpreview]
    rfl
  obtain ⟨_, source, runs, -, hsource', hlist, hfire, -⟩ :=
    previewed_runs_fire conditions (by simp [Instant.HasWholeOffset, conditions]) everyFiveMinutes _ hanswer
  obtain rfl : c.source = source := Json.string.inj (Option.some.inj hsource')
  have hlength : runs.length = 2 := by
    have := congrArg List.length (Json.array.inj (Option.some.inj hlist))
    simpa using this.symm
  exact ⟨_, runs, hanswer, hlist, hlength, hsource ▸ hfire⟩

end Service

end CronPreview
