/-
The name of the zone in which an instant is shown.

* `LocalZone.exists_moment`, `LocalZone.exists_nameAt`: three days away from both ends of the calendar, every
  local time belongs to a moment, and the zone has a name at it;
* `LocalZone.nameAt_utc`: where local time is UTC, it has no name on the first day of the calendar only;
* `Instant.IsNameless`, `Instant.IsInside`: the instants of which these are true;
* `Instant.IsKnownTo`: local time is UTC, or else the instant is no local one at the ends of the calendar;
* `Instant.zoneName_utc`, `Instant.exists_zoneName_of_isInside`: what the name is in the two cases;
* `Instant.zoneName_of_isNameless`, `Instant.exists_zoneName`: of the instants that a zone knows, the nameless
  ones have no name for their zone, and all others have one;
* `Instant.isOneLine_zoneName`: the name of a local zone is written on one line.
-/
import CronPreview.Description.Run
import CronPreview.Proofs.Outcome
import CronPreview.Proofs.Text.Lines

namespace CronPreview

namespace LocalZone

variable {z : LocalZone} {t u : ℤ}

/-! ### Moments and names of local times -/

lemma offset_bounds (z : LocalZone) (u : ℤ) : -86400 < z.offset u ∧ z.offset u < 86400 := by
  have := z.offset_lt u
  rw [secondsPerDay] at this
  omega

/-- The distance is known where the calendar has the local time. -/
lemma offsetAt_of_mem (h : 0 ≤ u + z.offset u) (h' : u + z.offset u < calendarSeconds) :
    z.offsetAt u = .ok (z.offset u) := by
  rw [offsetAt, if_neg (by omega), if_neg (by omega)]

/-- A local time far from the ends of the calendar belongs to a moment less than a day away from it. -/
lemma exists_moment (hfirst : 3 * 86400 ≤ t) (hlast : t + 3 * 86400 ≤ calendarSeconds) :
    ∃ u, z.moment t = .ok u ∧ t - 86400 < u ∧ u < t + 86400 := by
  -- no moment that is looked up is further away than this
  have hat : ∀ u, t - 2 * 86400 < u → u < t + 86400 → z.offsetAt u = .ok (z.offset u) := by
    intro u hu hu'
    have := z.offset_bounds u
    exact offsetAt_of_mem (by omega) (by omega)
  have ha := z.offset_bounds t
  have hday : (secondsPerDay : ℤ) = 86400 := rfl
  obtain ⟨b, hb, hbounds⟩ : ∃ b,
      (if z.offset (t - z.offset t) = z.offset t then z.offsetAt (t - z.offset t - secondsPerDay)
        else .ok (z.offset (t - z.offset t))) = .ok b ∧ -86400 < b ∧ b < 86400 := by
    split
    · exact ⟨_, hat _ (by omega) (by omega), z.offset_bounds _⟩
    · exact ⟨_, rfl, z.offset_bounds _⟩
  have hmoment : z.moment t = if b = z.offset t then .ok (t - z.offset t) else
      .ok (if z.offset (t - b) = b then t - b else if z.offset (t - z.offset t) = z.offset t then
        t - z.offset t else max (t - z.offset t) (t - b)) := by
    rw [moment, hat t (by omega) (by omega)]
    simp only [bind, Except.bind]
    rw [hat _ (by omega) (by omega)]
    dsimp only
    rw [hb]
    dsimp only
    rw [hat _ (by omega) (by omega)]
    rfl
  rw [hmoment]
  split_ifs
  all_goals exact ⟨_, rfl, by omega, by omega⟩

/-- **Every zone has a name** for a local time far from the ends of the calendar. -/
theorem exists_nameAt (hfirst : 3 * 86400 ≤ t) (hlast : t + 3 * 86400 ≤ calendarSeconds) :
    ∃ name, z.nameAt t = .ok name := by
  obtain ⟨u, hu, hafter, hbefore⟩ := exists_moment (z := z) hfirst hlast
  have h := z.offset_bounds u
  have h' := z.offset_bounds (t - z.offset u)
  refine ⟨z.name (t - z.offset u), ?_⟩
  rw [nameAt, hu]
  exact if_pos ⟨by omega, by omega, by omega, by omega⟩

/-- Where local time is UTC, the day before is looked up for every local time. -/
lemma moment_utc (hfirst : 0 ≤ t) (hlast : t < calendarSeconds) :
    utc.moment t = if t < 86400 then .error .beforeCalendar else .ok t := by
  have hat : ∀ u : ℤ, 0 ≤ u → u < calendarSeconds → utc.offsetAt u = .ok 0 := by
    intro u hu hu'
    exact offsetAt_of_mem (by simpa [utc]) (by simpa [utc])
  have hbefore : utc.offsetAt (t - secondsPerDay) =
      if t < 86400 then .error .beforeCalendar else .ok 0 := by
    have hday : (secondsPerDay : ℤ) = 86400 := rfl
    split
    · exact if_pos (show t - secondsPerDay + 0 < 0 by omega)
    · exact hat _ (by omega) (by omega)
  rw [moment, hat t hfirst hlast]
  simp only [bind, Except.bind, sub_zero, hat t hfirst hlast, if_true, hbefore]
  split_ifs <;> rfl

/-- Where local time is UTC, it has no name on the first day of the calendar, and that of UTC afterwards. -/
lemma nameAt_utc (hfirst : 0 ≤ t) (hlast : t < calendarSeconds) :
    utc.nameAt t = if t < 86400 then .error .beforeCalendar else .ok "UTC" := by
  rw [nameAt, moment_utc hfirst hlast]
  split
  · rfl
  · have hmem : 0 ≤ t - 0 ∧ t - 0 < calendarSeconds ∧ 0 ≤ t - 0 + 0 ∧ t - 0 + 0 < calendarSeconds := by
      omega
    exact if_pos hmem

/-- The name is one of the names of the zone. -/
lemma exists_name_eq {name : String} (h : z.nameAt t = .ok name) : ∃ u, z.name u = name := by
  rw [nameAt, Except.bind_eq_ok_iff] at h
  obtain ⟨u, -, h⟩ := h
  dsimp only at h
  split at h
  · exact ⟨_, Except.ok.inj h⟩
  · cases h

/-- Letters, digits and signs are printable ASCII characters. -/
lemma toNat_of_isZoneNameChar {c : Char} (h : isZoneNameChar c = true) :
    0x20 ≤ c.toNat ∧ c.toNat < 0x80 := by
  unfold isZoneNameChar Char.isAlphanum Char.isAlpha Char.isUpper Char.isLower Char.isDigit at h
  simp only [Bool.or_eq_true, Bool.and_eq_true, decide_eq_true_eq, beq_iff_eq, UInt32.le_iff_toNat_le,
    ge_iff_le] at h
  change ((((65 ≤ c.toNat ∧ c.toNat ≤ 90) ∨ (97 ≤ c.toNat ∧ c.toNat ≤ 122)) ∨
    (48 ≤ c.toNat ∧ c.toNat ≤ 57)) ∨ c = '+') ∨ c = '-' at h
  rcases h with (((h | h) | h) | rfl) | rfl
  · omega
  · omega
  · omega
  · decide
  · decide

end LocalZone

namespace Instant

variable {z : LocalZone} {t : Instant} {name : String}

/-! ### Instants -/

/-- A local instant before the second day of the calendar. -/
def IsNameless (t : Instant) : Prop :=
  t.zone = none ∧ t.minute < minuteNumber ⟨1, 1, 2⟩ 0 0

/-- At least three days have passed since the beginning of the calendar, and three are left. -/
def IsInside (t : Instant) : Prop :=
  3 * minutesPerDay ≤ t.minute ∧ t.minute + 3 * minutesPerDay < calendarMinutes

/-- Local time is UTC, or else the instant is no local one at the ends of the calendar, where it would count how
far local time is from UTC. -/
def IsKnownTo (z : LocalZone) (t : Instant) : Prop :=
  t.zone = none → z = .utc ∨ t.IsInside

/-- Where local time is UTC, the first day of the calendar has no name for it. -/
lemma zoneName_utc (hlocal : t.zone = none) : t.zoneName .utc =
    if t.minute < minuteNumber ⟨1, 1, 2⟩ 0 0 then .error .beforeCalendar else .ok "UTC" := by
  have hsecond := t.second_lt
  have hminute := t.minute_lt
  have hseconds : calendarSeconds = calendarMinutes * 60 := rfl
  have hsecondDay : minuteNumber ⟨1, 1, 2⟩ 0 0 = 1440 := rfl
  have hearly : ((60 * t.minute + t.second : ℕ) : ℤ) < 86400 ↔ t.minute < 1440 := by omega
  rw [zoneName, hlocal]
  dsimp only
  rw [LocalZone.nameAt_utc (by omega) (by omega), hsecondDay]
  simp only [hearly]
  split <;> rfl

/-- Inside the calendar every zone has a name. -/
lemma exists_zoneName_of_isInside (hlocal : t.zone = none) (h : t.IsInside) :
    ∃ name, t.zoneName z = .ok name := by
  obtain ⟨hfirst, hlast⟩ := h
  have hsecond := t.second_lt
  have hday : minutesPerDay = 1440 := rfl
  have hseconds : calendarSeconds = calendarMinutes * 60 := rfl
  obtain ⟨name, hname⟩ : ∃ name, z.nameAt (60 * t.minute + t.second : ℕ) = .ok name :=
    LocalZone.exists_nameAt (by omega) (by omega)
  rw [zoneName, hlocal]
  dsimp only
  rw [hname]
  exact ⟨_, rfl⟩

/-- **Every other instant has a name for its zone.** -/
theorem exists_zoneName (hz : t.IsKnownTo z) (h : ¬ t.IsNameless) : ∃ name, t.zoneName z = .ok name := by
  cases hzone : t.zone with
  | some zone =>
      rw [zoneName, hzone]
      exact ⟨_, rfl⟩
  | none =>
      rcases hz hzone with rfl | hinside
      · exact ⟨"UTC", by rw [zoneName_utc hzone, if_neg fun hearly => h ⟨hzone, hearly⟩]⟩
      · exact exists_zoneName_of_isInside hzone hinside

/-- **A nameless instant has no name for its zone**, as local time would be looked up before the calendar. -/
theorem zoneName_of_isNameless (hz : t.IsKnownTo z) (h : t.IsNameless) :
    t.zoneName z = .error .beforeCalendar := by
  obtain ⟨hlocal, hearly⟩ := h
  rcases hz hlocal with rfl | ⟨hfirst, -⟩
  · rw [zoneName_utc hlocal, if_pos hearly]
  · -- the nameless instants are not inside the calendar
    have hsecondDay : minuteNumber ⟨1, 1, 2⟩ 0 0 = 1440 := rfl
    have hday : minutesPerDay = 1440 := rfl
    omega

/-- The name of a local zone is written on one line. -/
lemma isOneLine_zoneName (hlocal : t.zone = none) (h : t.zoneName z = .ok name) :
    Text.IsOneLine name.toList := by
  rw [zoneName, hlocal] at h
  obtain ⟨own, hown, rfl⟩ := Except.map_eq_ok_iff.mp h
  obtain ⟨u, rfl⟩ := LocalZone.exists_name_eq hown
  split
  · exact Text.isOneLine_iff_all.mpr (by decide +kernel)
  · exact Text.isOneLine_of_ascii fun c hc => LocalZone.toNat_of_isZoneNameChar (z.name_chars u c hc)

end Instant

end CronPreview
