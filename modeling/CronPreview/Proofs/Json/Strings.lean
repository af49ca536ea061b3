/-
Strings that are spelled character by character.

* `Json.IsSpelling`: characters of a string that are read as one character;
* `Json.IsOrdinary`, `Json.isSpelling_of_isOrdinary`: characters that are their own spelling;
* `Json.isSpelling_escape`: what is written for a character is a spelling of it;
* `Json.readString_flatMap`: a string is read from the spellings of its characters.
-/
import Mathlib.Tactic
import CronPreview.Json.Reader

namespace CronPreview.Json

variable {c : Char} {cs rest : List Char} {n : ℕ}

/-! ### Code units -/

/-- No character is a surrogate. -/
lemma not_surrogate (c : Char) : ¬ (0xd800 ≤ c.toNat ∧ c.toNat < 0xe000) := by
  rcases c.valid with h | ⟨h, -⟩
  · have : c.toNat < 0xd800 := h
    omega
  · have : 0xdfff < c.toNat := h
    omega

lemma toNat_lt (c : Char) : c.toNat < 0x110000 := by
  rcases c.valid with h | ⟨-, h⟩
  · have : c.toNat < 0xd800 := h
    omega
  · exact h

/-- A code point that is no surrogate is a character by itself. -/
lemma joinSurrogates_toNat (c : Char) (ns : List ℕ) :
    joinSurrogates (c.toNat :: ns) = c :: joinSurrogates ns := by
  have hc := not_surrogate c
  cases ns with
  | nil => simp only [joinSurrogates, if_neg hc, Char.ofNat_toNat]
  | cons m ns => rw [joinSurrogates, if_neg (by omega), if_neg hc, Char.ofNat_toNat]

/-- A high surrogate and a low one make a character together. -/
lemma joinSurrogates_pair (h : 0x10000 ≤ c.toNat) (ns : List ℕ) :
    joinSurrogates ((0xd800 + (c.toNat - 0x10000) / 0x400) ::
      (0xdc00 + (c.toNat - 0x10000) % 0x400) :: ns) = c :: joinSurrogates ns := by
  have hlast := toNat_lt c
  have hvalue : 0x10000 + (0xd800 + (c.toNat - 0x10000) / 0x400 - 0xd800) * 0x400
      + (0xdc00 + (c.toNat - 0x10000) % 0x400 - 0xdc00) = c.toNat := by omega
  rw [joinSurrogates, if_pos (by omega), hvalue, Char.ofNat_toNat]

/-! ### Spellings -/

/-- In a string these characters are read as the character `c`. -/
def IsSpelling (w : List Char) (c : Char) : Prop :=
  ∃ units : List ℕ, (∀ acc cs, readCodes acc (w ++ cs) = readCodes (units.reverse ++ acc) cs) ∧
    ∀ ns, joinSurrogates (units ++ ns) = c :: joinSurrogates ns

/-- The character stands for itself in a string. -/
def IsOrdinary (c : Char) : Prop := c ≠ '"' ∧ c ≠ '\\' ∧ 0x20 ≤ c.toNat

lemma isSpelling_of_isOrdinary (h : IsOrdinary c) : IsSpelling [c] c := by
  obtain ⟨hquote, hescape, hcontrol⟩ := h
  refine ⟨[c.toNat], fun acc cs => ?_, joinSurrogates_toNat c⟩
  rw [List.singleton_append, readCodes]
  · exact if_neg (by omega)
  · exact hquote
  · exact fun _ _ _ _ _ hc => absurd hc hescape
  · exact fun _ _ hc => absurd hc hescape

lemma hexDigit?_digitChar (h : n < 16) : hexDigit? (Nat.digitChar n) = some n := by
  have hdigits : ∀ n : Fin 16, hexDigit? (Nat.digitChar n) = some n.val := by decide
  exact hdigits ⟨n, h⟩

/-- A number of four hexadecimal digits is read back. -/
lemma readCodes_hex4 (h : n < 0x10000) (acc : List ℕ) (cs : List Char) :
    readCodes acc (('\\' :: 'u' :: hex4 n) ++ cs) = readCodes (n :: acc) cs := by
  have hvalue : ((n / 4096 % 16 * 16 + n / 256 % 16) * 16 + n / 16 % 16) * 16 + n % 16 = n := by omega
  have hread : hex4? (Nat.digitChar (n / 4096 % 16)) (Nat.digitChar (n / 256 % 16))
      (Nat.digitChar (n / 16 % 16)) (Nat.digitChar (n % 16)) = some n := by
    rw [hex4?, hexDigit?_digitChar (by omega), hexDigit?_digitChar (by omega),
      hexDigit?_digitChar (by omega), hexDigit?_digitChar (by omega)]
    exact congrArg some hvalue
  simp only [hex4, List.map_cons, List.map_nil, List.cons_append, List.nil_append]
  rw [readCodes]
  simp only [hread]

/-- **What is written for a character is read as that character.** -/
theorem isSpelling_escape (c : Char) : IsSpelling (escape c) c := by
  rw [escape]
  split_ifs with hquote hescape hplain hshort
  · subst hquote
    exact ⟨['"'.toNat], fun acc cs => by simp [readCodes, escaped?], joinSurrogates_toNat _⟩
  · subst hescape
    exact ⟨['\\'.toNat], fun acc cs => by simp [readCodes, escaped?], joinSurrogates_toNat _⟩
  · exact isSpelling_of_isOrdinary ⟨hquote, hescape, hplain.1⟩
  · exact ⟨[c.toNat], readCodes_hex4 hshort, joinSurrogates_toNat c⟩
  · -- beyond the first plane there are two escapes, one for each surrogate
    have hlast := toNat_lt c
    have hhigh : 0xd800 + (c.toNat - 0x10000) / 0x400 < 0x10000 := by omega
    have hlow : 0xdc00 + (c.toNat - 0x10000) % 0x400 < 0x10000 := by omega
    refine ⟨[0xd800 + (c.toNat - 0x10000) / 0x400, 0xdc00 + (c.toNat - 0x10000) % 0x400],
      fun acc cs => ?_, joinSurrogates_pair (Nat.not_lt.mp hshort)⟩
    rw [List.append_assoc, readCodes_hex4 hhigh, readCodes_hex4 hlow]
    rfl

/-- **A string is read from the spellings of its characters**, up to the quote after them. -/
theorem readString_flatMap {spell : Char → List Char} (h : ∀ c ∈ cs, IsSpelling (spell c) c) :
    readString (cs.flatMap spell ++ '"' :: rest) = .ok (String.ofList cs, rest) := by
  -- the code units are read whatever was read before them, which is what the induction needs
  obtain ⟨units, hunits, hjoin⟩ : ∃ units, (∀ acc, readCodes acc (cs.flatMap spell ++ '"' :: rest) =
      some (acc.reverse ++ units, rest)) ∧ joinSurrogates units = cs := by
    induction cs with
    | nil => exact ⟨[], fun acc => by simp [readCodes], rfl⟩
    | cons c cs ih =>
        obtain ⟨hc, hcs⟩ := List.forall_mem_cons.mp h
        obtain ⟨first, hfirst, hchar⟩ := hc
        obtain ⟨units, hunits, hjoin⟩ := ih hcs
        refine ⟨first ++ units, fun acc => ?_, by rw [hchar, hjoin]⟩
        rw [List.flatMap_cons, List.append_assoc, hfirst, hunits]
        simp
  rw [readString, hunits]
  simp [hjoin]

end CronPreview.Json
