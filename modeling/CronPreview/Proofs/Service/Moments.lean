/-
Instants in messages.

* `Instant.HasWholeOffset`: the zone, if one is known, lies whole minutes and less than a day from UTC;
* `Instant.asMessage`: what remains of an instant in a message, where zones have no names of their own;
* `Service.readMoment_iso`: an instant is read back from its notation;
* `Service.hasWholeOffset_of_readMoment`: every instant that can be read has such a zone or none.
-/
import CronPreview.Proofs.Calendar.Notation
import CronPreview.Proofs.Outcome
import CronPreview.Service.Moment

namespace CronPreview

/-! ### Zones -/

/-- The distance from UTC is a number of minutes and less than a day. -/
def IsWholeOffset (offset : ℤ) : Prop := offset % 60 = 0 ∧ offset.natAbs < 86400

lemma isWholeOffset_zero : IsWholeOffset 0 := ⟨rfl, by decide⟩

namespace Instant

/-- The zone, if one is known, lies whole minutes and less than a day from UTC. -/
def HasWholeOffset (t : Instant) : Prop := ∀ z ∈ t.zone, IsWholeOffset z.offset

/-- The instant in a message, where a zone is known by its distance from UTC only. -/
def asMessage (t : Instant) : Instant :=
  { t with zone := t.zone.map fun z => Service.messageZone z.offset }

/-- An instant and its message have the same notation. -/
lemma iso_asMessage (t : Instant) : t.asMessage.iso = t.iso := by
  rw [iso, iso, write, write, asMessage]
  cases t.zone <;> rfl

end Instant

namespace Service

open Instant

variable {offset : ℤ} {t : Instant}

/-! ### Reading zones -/

lemma readMomentOffset?_writeClock (sign : ℤ) {hour minute : ℕ} (hhour : hour < 24)
    (hminute : minute < 60) :
    readMomentOffset? sign (writeClock hour minute) = some (some (sign * ((hour * 60 + minute) * 60 : ℕ))) := by
  have hlast : readDigits? 2 (Numeral.padded 2 minute) = some (minute, []) := by
    simpa using readDigits?_padded (by omega : minute < 10 ^ 2) (by decide) []
  rw [readMomentOffset?, writeClock, readDigits?_padded (by omega) (by decide)]
  simp only [Option.bind_eq_bind, Option.bind_some, hlast, hhour, hminute, and_self, if_true]
  rfl

/-- A distance of whole minutes is read back. -/
theorem readMomentZone?_write (h : IsWholeOffset offset) :
    readMomentZone? (writeOffset offset) = some (some offset) := by
  obtain ⟨hminutes, hday⟩ := h
  have hhour : offset.natAbs / 3600 < 24 := by omega
  have hminute : offset.natAbs / 60 % 60 < 60 := by omega
  -- without seconds the distance is written in hours and minutes, as it is read
  have hwhole : offset.natAbs % 60 = 0 := by omega
  rw [writeOffset, if_pos hwhole, List.append_nil]
  split_ifs with hneg
  · rw [readMomentZone?, readMomentOffset?_writeClock (-1) hhour hminute]
    congr 2
    omega
  · rw [readMomentZone?, readMomentOffset?_writeClock 1 hhour hminute]
    congr 2
    omega

/-- What is written for the zone of an instant, if it is known. -/
def zoneText (t : Instant) : List Char :=
  match t.zone with
  | some z => writeOffset z.offset
  | none => []

/-- The zone at the end of a text is read back, also when there is none. -/
lemma readMomentZone?_zoneText (h : t.HasWholeOffset) :
    readMomentZone? (zoneText t) = some (t.zone.map Zone.offset) := by
  rw [zoneText]
  cases hzone : t.zone with
  | none => rfl
  | some z => exact readMomentZone?_write (h z hzone)

/-- A distance from UTC begins with its sign. -/
lemma endsFraction_zoneText (t : Instant) : EndsFraction (zoneText t) := by
  rw [zoneText]
  cases t.zone with
  | none => simp [EndsFraction]
  | some z =>
      change EndsFraction (writeOffset z.offset)
      rw [writeOffset]
      intro c hc
      split_ifs at hc <;> obtain rfl := Option.some.inj hc <;> decide

/-! ### Reading instants -/

/-- What is written for the microseconds of an instant, if there are any. -/
def fractionText (t : Instant) : List Char :=
  if t.microsecond = 0 then [] else '.' :: Numeral.padded 6 t.microsecond

/-- The microseconds are read back; no comma stands for the point before them. -/
lemma readMomentFraction?_write (t : Instant) {rest : List Char} (hrest : EndsFraction rest) :
    readMomentFraction? (fractionText t ++ rest) = some (t.microsecond, rest) := by
  have hcomma : ∀ cs, fractionText t ++ rest = ',' :: cs → False := by
    intro cs hcs
    rw [fractionText] at hcs
    split_ifs at hcs
    · exact (hrest ',' (by rw [← List.nil_append rest, hcs]; rfl)).2.1 rfl
    · cases hcs
  rw [readMomentFraction?]
  · exact readFraction?_write t.microsecond_lt hrest
  · exact hcomma

/-- The date and the time of day are read back, with the distance from UTC. -/
lemma readClockReading?_write (h : t.HasWholeOffset) :
    readClockReading? (t.write 'T') =
      some ⟨t.date, t.hourOfDay, t.minuteOfHour, t.second, t.microsecond, t.zone.map Zone.offset⟩ := by
  have hwrite : t.write 'T' = t.date.write ++ 'T' :: (writeClock t.hourOfDay t.minuteOfHour
      ++ ':' :: (Numeral.padded 2 t.second ++ (fractionText t ++ zoneText t))) := by
    rw [Instant.write, fractionText, zoneText]
    cases t.zone <;> simp only [List.append_assoc, List.cons_append]
  have hhour : t.hourOfDay < 100 := Nat.lt_trans t.hourOfDay_lt (by decide)
  have hminute : t.minuteOfHour < 100 := Nat.lt_trans t.minuteOfHour_lt (by decide)
  have hsecond : t.second < 10 ^ 2 := Nat.lt_trans t.second_lt (by decide)
  rw [hwrite, readClockReading?, readDate?_write t.isValid_date]
  simp only [Option.bind_eq_bind, Option.bind_some, readClock?_writeClock hhour hminute, readMomentSeconds?,
    readDigits?_padded hsecond (by decide), readMomentFraction?_write t (endsFraction_zoneText t),
    readMomentZone?_zoneText h, Option.pure_def]
  rfl

/-- What a clock shows is shown by one instant. -/
lemma ClockReading.instant?_fields (t : Instant) :
    instant? ⟨t.date, t.hourOfDay, t.minuteOfHour, t.second, t.microsecond, t.zone.map Zone.offset⟩ =
      some t.asMessage := by
  rw [instant?, Instant.of?_fields, Option.map_map]
  rfl

lemma ClockReading.instant_of_instant? {r : ClockReading} (h : r.instant? = some t) :
    r.instant = .ok t := by
  rw [instant, h]

/-- **An instant is read back from its notation**, all but the name of its zone. -/
theorem readMoment_iso (h : t.HasWholeOffset) : readMoment (.string t.iso) = .ok t.asMessage := by
  have htext : readMomentText (t.write 'T') = .ok t.asMessage := by
    rw [readMomentText, readClockReading?_write h]
    exact ClockReading.instant_of_instant? (ClockReading.instant?_fields t)
  rw [readMoment, iso, String.toList_ofList, htext]
  rfl

/-! ### Instants that can be read -/

lemma isWholeOffset_of_readMomentOffset? {sign : ℤ} {cs : List Char} (hsign : sign = 1 ∨ sign = -1)
    (h : readMomentOffset? sign cs = some (some offset)) : IsWholeOffset offset := by
  rw [readMomentOffset?] at h
  simp only [Option.bind_eq_bind, Option.bind_eq_some_iff] at h
  obtain ⟨⟨hour, ds⟩, -, ⟨minute, es⟩, -, h⟩ := h
  split_ifs at h with hbounds
  obtain ⟨-, hhour, hminute⟩ := hbounds
  obtain rfl := Option.some.inj (Option.some.inj h)
  dsimp only at hhour hminute
  rcases hsign with rfl | rfl
  · exact ⟨by omega, by omega⟩
  · exact ⟨by omega, by omega⟩

lemma isWholeOffset_of_readMomentZone? {cs : List Char} (h : readMomentZone? cs = some (some offset)) :
    IsWholeOffset offset := by
  unfold readMomentZone? at h
  split at h
  · cases h
  · cases h
    exact isWholeOffset_zero
  · cases h
    exact isWholeOffset_zero
  · exact isWholeOffset_of_readMomentOffset? (Or.inl rfl) h
  · exact isWholeOffset_of_readMomentOffset? (Or.inr rfl) h
  · exact isWholeOffset_of_readMomentOffset? (Or.inr rfl) h
  · cases h

lemma hasWholeOffset_of_zone {o : Option ℤ} (ho : ∀ x ∈ o, IsWholeOffset x)
    (h : t.zone = o.map messageZone) : t.HasWholeOffset := by
  intro z hz
  rw [h] at hz
  obtain ⟨x, hx, rfl⟩ := Option.map_eq_some_iff.mp hz
  exact ho x hx

lemma hasWholeOffset_of_utc (h : t.zone = some (messageZone 0)) : t.HasWholeOffset := by
  refine hasWholeOffset_of_zone (o := some 0) ?_ h
  rintro x ⟨⟩
  exact isWholeOffset_zero

/-- A clock reading is shown in the zone at its distance from UTC. -/
lemma ClockReading.zone_of_instant {r : ClockReading} (h : r.instant = .ok t) :
    t.zone = r.offset.map messageZone := by
  rw [instant] at h
  split at h
  · next hsome =>
      cases h
      rw [instant?, Instant.of?] at hsome
      split_ifs at hsome
      obtain rfl := Option.some.inj hsome
      rfl
  · split_ifs at h

lemma isWholeOffset_of_readClockReading? {cs : List Char} {r : ClockReading}
    (h : readClockReading? cs = some r) : ∀ x ∈ r.offset, IsWholeOffset x := by
  rw [readClockReading?] at h
  simp only [Option.bind_eq_bind, Option.bind_eq_some_iff] at h
  obtain ⟨⟨date, ds⟩, -, h⟩ := h
  split at h
  · cases h
    simp
  · split_ifs at h
    simp only [Option.bind_eq_some_iff] at h
    obtain ⟨⟨⟨hour, minute⟩, es⟩, -, ⟨⟨second, microsecond⟩, fs⟩, -, offset, hoffset, h⟩ := h
    cases h
    rintro x rfl
    exact isWholeOffset_of_readMomentZone? hoffset

namespace Timestamp

/-- Timestamps are shown in UTC. -/
lemma zone_of_ofSeconds {seconds : ℤ} {microsecond : ℕ} (h : ofSeconds seconds microsecond = .ok t) :
    t.zone = some (messageZone 0) := by
  rw [ofSeconds] at h
  split_ifs at h
  cases h
  rfl

lemma zone_of_ofInteger {n : ℤ} {microsecond : ℕ} (h : ofInteger n microsecond = .ok t) :
    t.zone = some (messageZone 0) := by
  rw [ofInteger] at h
  split_ifs at h
  · exact zone_of_ofSeconds h
  · exact zone_of_ofSeconds h

lemma zone_of_ofReal {x : Float} (h : ofReal x = .ok t) : t.zone = some (messageZone 0) := by
  rw [ofReal] at h
  split_ifs at h
  exact zone_of_ofInteger h

lemma zone_of_readTimestamp? {cs : List Char} (h : readTimestamp? cs = some (.ok t)) :
    t.zone = some (messageZone 0) := by
  simp only [readTimestamp?] at h
  split_ifs at h
  · exact zone_of_ofInteger (Option.some.inj h)
  · exact zone_of_ofInteger (Option.some.inj h)
  · obtain ⟨x, -, hx⟩ := Option.map_eq_some_iff.mp h
    exact zone_of_ofReal hx

end Timestamp

/-- The zone of an instant that is given as a text. -/
lemma hasWholeOffset_of_readMomentText {cs : List Char} (h : readMomentText cs = .ok t) :
    t.HasWholeOffset := by
  rw [readMomentText] at h
  cases hread : readClockReading? cs with
  | some r =>
      rw [hread] at h
      exact hasWholeOffset_of_zone (isWholeOffset_of_readClockReading? hread) (ClockReading.zone_of_instant h)
  | none =>
      rw [hread] at h
      cases hstamp : readTimestamp? cs with
      | none => simp [hstamp] at h
      | some x =>
          obtain rfl : x = .ok t := by simpa [hstamp] using h
          exact hasWholeOffset_of_utc (Timestamp.zone_of_readTimestamp? hstamp)

/-- **Every instant that can be read lies whole minutes from UTC**, if its zone is known. -/
theorem hasWholeOffset_of_readMoment {v : Json} (h : readMoment v = .ok t) : t.HasWholeOffset := by
  unfold readMoment at h
  split at h
  · exact hasWholeOffset_of_readMomentText (Except.mapError_eq_ok_iff.mp h)
  · split_ifs at h
    exact hasWholeOffset_of_utc (Timestamp.zone_of_ofInteger (Except.mapError_eq_ok_iff.mp h))
  · exact hasWholeOffset_of_utc (Timestamp.zone_of_ofReal (Except.mapError_eq_ok_iff.mp h))
  · cases h

end Service

end CronPreview
