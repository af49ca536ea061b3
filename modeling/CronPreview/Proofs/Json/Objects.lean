/-
Objects whose members are strings.

* `Json.quotedBy`, `Json.memberBy`, `Json.objectBy`: such an object when each character is spelled in a given
  way;
* `Json.read_objectBy`: it is read back when the spellings are right;
* `Json.write_strings`, `Json.read_write_strings`: it is read back from the text that is written for it.
-/
import CronPreview.Proofs.Json.Strings

namespace CronPreview.Json

/-- A text between quotes. -/
def quotedBy (spell : Char → List Char) (s : String) : List Char :=
  '"' :: (s.toList.flatMap spell ++ ['"'])

/-- A member whose value is a text. -/
def memberBy (spell : Char → List Char) (m : String × String) : List Char :=
  quotedBy spell m.1 ++ ':' :: quotedBy spell m.2

/-- An object whose members are texts. -/
def objectBy (spell : Char → List Char) (ms : List (String × String)) : List Char :=
  '\x7b' :: ([','].intercalate (ms.map (memberBy spell)) ++ ['\x7d'])

/-- The characters of the name and of the text of a member are spelled as they should be. -/
structure IsSpelled (spell : Char → List Char) (m : String × String) : Prop where
  name : ∀ c ∈ m.1.toList, IsSpelling (spell c) c
  text : ∀ c ∈ m.2.toList, IsSpelling (spell c) c

/-- The object with these texts as the values of its members. -/
def ofStrings (ms : List (String × String)) : Json := .object (ms.map fun m => (m.1, .string m.2))

variable {spell : Char → List Char} {cs rest : List Char} {n : ℕ} {m : String × String}
  {ms : List (String × String)}

/-! ### Reading -/

lemma readString_spelled {s : String} (h : ∀ c ∈ s.toList, IsSpelling (spell c) c) :
    readString (s.toList.flatMap spell ++ '"' :: rest) = .ok (s, rest) := by
  rw [readString_flatMap h, String.ofList_toList]

lemma readValue_quotedBy {s : String} (h : ∀ c ∈ s.toList, IsSpelling (spell c) c) :
    readValue (n + 1) (quotedBy spell s ++ rest) = .ok (.string s, rest) := by
  rw [readValue, quotedBy]
  simp [skipBlanks, readString_spelled h, bind, Except.bind, pure, Except.pure]

/-- The last member of an object is read. -/
lemma readMembers_last (h : IsSpelled spell m) :
    readMembers (n + 2) (memberBy spell m ++ '\x7d' :: rest) = .ok ([(m.1, .string m.2)], rest) := by
  rw [readMembers, memberBy, quotedBy]
  simp [skipBlanks, readString_spelled h.name, readValue_quotedBy h.text, bind, Except.bind, pure,
    Except.pure]

/-- A member of an object is read, and then the members after it. -/
lemma readMembers_cons (h : IsSpelled spell m) {vs : List (String × Json)}
    (hrest : readMembers (n + 1) cs = .ok (vs, rest)) :
    readMembers (n + 2) (memberBy spell m ++ ',' :: cs) = .ok ((m.1, .string m.2) :: vs, rest) := by
  rw [readMembers, memberBy, quotedBy]
  simp [skipBlanks, readString_spelled h.name, readValue_quotedBy h.text, hrest, bind, Except.bind, pure,
    Except.pure]

/-- The members of an object are read one after the other. -/
lemma readMembers_intercalate (hne : ms ≠ []) (h : ∀ m ∈ ms, IsSpelled spell m) (hn : ms.length < n) :
    readMembers n ([','].intercalate (ms.map (memberBy spell)) ++ '\x7d' :: rest) =
      .ok (ms.map fun m => (m.1, .string m.2), rest) := by
  induction ms generalizing n with
  | nil => exact absurd rfl hne
  | cons m ms ih =>
      obtain ⟨hm, hms⟩ := List.forall_mem_cons.mp h
      rw [List.length_cons] at hn
      obtain ⟨n, rfl⟩ : ∃ k, n = k + 2 := ⟨n - 2, by omega⟩
      cases ms with
      | nil =>
          rw [List.map_singleton, List.intercalate_singleton]
          exact readMembers_last hm
      | cons m' ms =>
          rw [List.map_cons, List.map_cons, List.intercalate_cons_cons, List.append_assoc,
            List.append_assoc]
          exact readMembers_cons hm (ih (by simp) hms (by omega))

lemma length_le_intercalate (spell : Char → List Char) (ms : List (String × String)) :
    ms.length ≤ ([','].intercalate (ms.map (memberBy spell))).length := by
  induction ms with
  | nil => simp
  | cons m ms ih =>
      cases ms with
      | nil => simp [memberBy, quotedBy]
      | cons m' ms =>
          rw [List.map_cons, List.map_cons, List.intercalate_cons_cons, List.length_append,
            List.length_append, List.length_cons, List.length_singleton]
          rw [List.map_cons] at ih
          omega

/-- **An object of texts is read back** when its characters are spelled as they should be. -/
theorem read_objectBy (hne : ms ≠ []) (h : ∀ m ∈ ms, IsSpelled spell m) :
    read (String.ofList (objectBy spell ms)) = .ok (ofStrings ms) := by
  obtain ⟨cs, hcs⟩ : ∃ cs, [','].intercalate (ms.map (memberBy spell)) ++ ['\x7d'] = '"' :: cs := by
    cases ms with
    | nil => exact absurd rfl hne
    | cons m ms => cases ms <;> exact ⟨_, rfl⟩
  have hlength := length_le_intercalate spell ms
  have hvalue : ∀ n, ms.length < n →
      readValue (n + 1) (objectBy spell ms) = .ok (ofStrings ms, []) := by
    intro n hn
    have hmembers : readMembers n ([','].intercalate (ms.map (memberBy spell)) ++ ['\x7d']) =
        .ok (ms.map fun m => (m.1, .string m.2), []) := readMembers_intercalate hne h hn
    rw [hcs] at hmembers
    rw [readValue, objectBy, hcs, ofStrings]
    simp [skipBlanks, hmembers, bind, Except.bind, pure, Except.pure]
  have hfuel : ms.length < 2 * (objectBy spell ms).length + 1 := by
    rw [objectBy, List.length_cons, List.length_append]
    omega
  rw [read, String.toList_ofList, hvalue _ hfuel]
  rfl

/-! ### Writing -/

lemma writeMembers_strings (ms : List (String × String)) :
    (writeMembers (ms.map fun m => (m.1, .string m.2))).map String.toList =
      ms.map (memberBy escape) := by
  induction ms with
  | nil => rfl
  | cons m ms ih =>
      rw [List.map_cons, writeMembers, List.map_cons, List.map_cons, ih, write, quote, quote]
      simp [memberBy, quotedBy]

/-- Every character of such an object is written by its escape. -/
theorem write_strings (ms : List (String × String)) :
    write (ofStrings ms) = String.ofList (objectBy escape ms) := by
  rw [ofStrings, write, objectBy, ← writeMembers_strings, ← String.toList_inj]
  simp

/-- **An object of texts is read back from the text that is written for it.** -/
theorem read_write_strings (hne : ms ≠ []) : read (write (ofStrings ms)) = .ok (ofStrings ms) := by
  rw [write_strings, read_objectBy hne]
  exact fun m _ => ⟨fun c _ => isSpelling_escape c, fun c _ => isSpelling_escape c⟩

end CronPreview.Json
