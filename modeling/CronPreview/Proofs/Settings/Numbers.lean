/-
The numbers of settings, which have no more digits than they were read with.

* `Numeral.value_lt`: a word of digits names a number of no more digits;
* `Text.readInteger_lt`: so does a text that stands for an integer;
* `Settings.IsWritable`: the numbers of the settings can be written, as in the standard ones;
* `Setting.isWritable_assign`, `Settings.isWritable_collect`: this stays true when a setting gets a value, and
  so it is true when all of them have got theirs;
* `Settings.IsRead`, `Settings.IsRead.isWritable`: it is true of all settings that are read.
-/
import CronPreview.Proofs.Field.Reading
import CronPreview.Settings.Sources

namespace CronPreview

/-! ### Numerals -/

/-- Each digit makes the number at most ten times as large. -/
lemma Numeral.foldl_lt {ds : List Char} (h : ∀ d ∈ ds, d.isDigit = true) (v : ℕ) :
    ds.foldl (fun v d => 10 * v + (d.toNat - '0'.toNat)) v < (v + 1) * 10 ^ ds.length := by
  induction ds generalizing v with
  | nil => simp
  | cons d ds ih =>
      have hd := Numeral.toNat_of_isDigit (h d List.mem_cons_self)
      have hzero : '0'.toNat = 48 := rfl
      calc _ < (10 * v + (d.toNat - '0'.toNat) + 1) * 10 ^ ds.length :=
            ih (fun x hx => h x (List.mem_cons_of_mem d hx)) _
        _ ≤ (10 * (v + 1)) * 10 ^ ds.length := Nat.mul_le_mul_right _ (by omega)
        _ = (v + 1) * 10 ^ (d :: ds).length := by rw [List.length_cons, Nat.pow_succ]; ring

/-- **A word of digits names a number of no more digits.** -/
theorem Numeral.value_lt {ds : List Char} (h : ∀ d ∈ ds, d.isDigit = true) : value ds < 10 ^ ds.length := by
  have hlt := foldl_lt h 0
  rwa [Nat.zero_add, Nat.one_mul] at hlt

namespace Text

lemma plainInt_lt {cs : List Char} {n : ℤ} (h : plainInt cs = .ok n) :
    n.natAbs < 10 ^ Numeral.maxDigits := by
  unfold plainInt at h
  split at h
  next negative ds _ =>
    split at h
    · next hnumeral =>
        cases hread : Numeral.read ds with
        | error e =>
            rw [hread] at h
            cases h
        | ok m =>
            rw [hread] at h
            obtain rfl := Except.ok.inj h
            obtain ⟨hlength, rfl⟩ := Numeral.read_eq_ok_iff.mp hread
            have hm := calc Numeral.value ds
              _ < 10 ^ ds.length := Numeral.value_lt (isDigits_iff.mpr ⟨hnumeral.1, hlength⟩).digits
              _ ≤ 10 ^ Numeral.maxDigits := Nat.pow_le_pow_right (by decide) hlength
            split <;> simpa using hm
    · cases h

/-- An integer that was read has no more digits than can be written. -/
theorem readInteger_lt {text : String} {n : ℤ} (h : readInteger text = .ok n) :
    n.natAbs < 10 ^ Numeral.maxDigits := by
  unfold readInteger at h
  dsimp only at h
  split at h
  · exact plainInt_lt h
  · cases h

end Text

/-! ### Settings -/

namespace Settings

variable {s s' : Settings}

/-- All numbers of the settings can be written. -/
structure IsWritable (s : Settings) : Prop where
  apiPort : s.apiPort.natAbs < 10 ^ Numeral.maxDigits
  defaultRunCount : s.defaultRunCount.natAbs < 10 ^ Numeral.maxDigits
  maxRunCount : s.maxRunCount.natAbs < 10 ^ Numeral.maxDigits
  searchLimitMinutes : s.searchLimitMinutes.natAbs < 10 ^ Numeral.maxDigits

/-- The standard numbers are small. -/
lemma isWritable_standard : standard.IsWritable := by
  have hsmall : 10 ^ 10 ≤ 10 ^ Numeral.maxDigits := Nat.pow_le_pow_right (by decide) (by decide)
  exact ⟨lt_of_lt_of_le (by decide) hsmall, lt_of_lt_of_le (by decide) hsmall,
    lt_of_lt_of_le (by decide) hsmall, lt_of_lt_of_le (by decide) hsmall⟩

/-- A setting that gets an integer gets one that was read. -/
lemma exists_integer {text : String} {set : ℤ → Settings}
    (h : (match Text.readInteger text with
      | .ok n => .ok (set n)
      | .error e => .error (SettingFault.integer e)) = Except.ok s') :
    ∃ n : ℤ, n.natAbs < 10 ^ Numeral.maxDigits ∧ set n = s' := by
  split at h
  · next n hread => exact ⟨n, Text.readInteger_lt hread, Except.ok.inj h⟩
  · cases h

/-- **A setting that gets a value leaves all numbers writable**, as its own number was read. -/
theorem isWritable_assign {setting : Setting} {text : String} (hs : s.IsWritable)
    (h : setting.assign text s = .ok s') : s'.IsWritable := by
  cases setting with
  | apiHost | logLevel | logFile =>
      obtain rfl := Except.ok.inj h
      exact { hs with }
  | apiReload =>
      rw [Setting.assign] at h
      split at h
      · obtain rfl := Except.ok.inj h
        exact { hs with }
      · cases h
  | apiPort =>
      obtain ⟨n, hn, rfl⟩ := exists_integer h
      exact { hs with apiPort := hn }
  | defaultRunCount =>
      obtain ⟨n, hn, rfl⟩ := exists_integer h
      exact { hs with defaultRunCount := hn }
  | maxRunCount =>
      obtain ⟨n, hn, rfl⟩ := exists_integer h
      exact { hs with maxRunCount := hn }
  | searchLimitMinutes =>
      obtain ⟨n, hn, rfl⟩ := exists_integer h
      exact { hs with searchLimitMinutes := hn }

/-- So do all settings that get their values, one after the other. -/
lemma isWritable_collect (given : Setting → Option String) : (collect given).1.IsWritable := by
  refine List.foldlRecOn (motive := fun state : Settings × List InvalidSetting => state.1.IsWritable)
    Setting.all _ isWritable_standard ?_
  rintro ⟨s, faults⟩ hs setting -
  dsimp only
  split
  · exact hs
  · next s' hassign =>
      obtain ⟨text, -, htext⟩ := Option.map_eq_some_iff.mp hassign
      exact isWritable_assign hs htext
  · exact hs

/-- The settings are those that some variables of the environment and some file stand for. -/
def IsRead (s : Settings) : Prop :=
  ∃ environment file, read environment file = .ok s

/-- **The numbers of settings that were read can be written.** -/
theorem IsRead.isWritable (h : s.IsRead) : s.IsWritable := by
  obtain ⟨environment, file, h⟩ := h
  unfold read at h
  dsimp only at h
  split at h
  · exact Except.ok.inj h ▸ isWritable_collect _
  · cases h

/-- There are no assignments in an empty file. -/
lemma assignments_empty : EnvFile.assignments "" = [] := by
  change EnvFile.readLines [] = []
  rw [EnvFile.readLines]
  rfl

/-- The standard settings are those of an empty environment without a file. -/
lemma isRead_standard : standard.IsRead := by
  refine ⟨[], "", ?_⟩
  rw [read, EnvFile.read, assignments_empty]
  rfl

end Settings

end CronPreview
