/-
The grammar of fields, and what they stand for.

* `IsValue`, `IsLastValue`: the numerals and names that stand for one value; only the last value of a
  range may have a minus sign;
* `IsSpan`, `IsStep`, `IsItem`, `IsField`: spans, steps, items, and fields, which are comma-separated
  lists of items; each stands for what its parts stand for;
* `Span.Holds`: the values of a span with a step;
* `Domain.HasPlainNames`: the names of a domain are words of plain letters, which holds in all five
  domains of an expression (`Domain.hasPlainNames_of_mem_all`);
* `IsValue.tokenChars`, `IsItem.itemChars`: the characters of which values and items are made;
* `IsField.isWord`: a field has characters, and none of them is blank.
-/
import CronPreview.Field.Item
import CronPreview.Proofs.Text.Case
import CronPreview.Proofs.Text.Layout
import CronPreview.Proofs.Text.Numeral

namespace CronPreview

/-! ### The grammar -/

/-- A run of ASCII digits that is not too long to be converted. -/
structure IsDigits (ds : List Char) : Prop where
  ne_nil : ds ≠ []
  digits : ∀ c ∈ ds, c.isDigit = true
  length_le : ds.length ≤ 4300

/-- A value of a domain is written as a numeral, or by its name in any letter case. -/
inductive IsValue (d : Domain) : List Char → ℤ → Prop
  | numeral {ds : List Char} : IsDigits ds → IsValue d ds (Numeral.value ds)
  | name {t : NameTable} {cs : List Char} {w : String} {v : ℤ} :
      d.names = some t → t.find? w = some v → cs.map Char.toLower = w.toList → IsValue d cs v

/-- The last value of a range is written as any value is, or as a numeral with a minus sign. -/
inductive IsLastValue (d : Domain) : List Char → ℤ → Prop
  | value {cs : List Char} {v : ℤ} : IsValue d cs v → IsLastValue d cs v
  | signed {ds : List Char} : IsDigits ds → IsLastValue d ('-' :: ds) (-Numeral.value ds)

/-- A span is a star, a value, or two values with a hyphen between them. The values lie in the
domain, in which the seventh day of the week is Sunday. -/
inductive IsSpan (d : Domain) : List Char → Span ℤ → Prop
  | all : IsSpan d ['*'] .all
  | one {cs : List Char} {v : ℤ} :
      IsValue d cs v → d.Contains (d.normalize v) → IsSpan d cs (.one (d.normalize v))
  | between {cs ds : List Char} {v w : ℤ} :
      IsValue d cs v → IsLastValue d ds w → d.Contains (d.normalize v) →
        d.Contains (d.normalize w) →
        IsSpan d (cs ++ '-' :: ds) (.between (d.normalize v) (d.normalize w))

/-- A step is a slash and a positive numeral. Without a step every value counts. -/
inductive IsStep : List Char → ℕ → Prop
  | none : IsStep [] 1
  | some {ds : List Char} :
      IsDigits ds → 1 ≤ Numeral.value ds → IsStep ('/' :: ds) (Numeral.value ds)

/-- An item is a span, which a step may follow. -/
inductive IsItem (d : Domain) : List Char → Span ℤ × ℕ → Prop
  | mk {cs ss : List Char} {σ : Span ℤ} {n : ℕ} :
      IsSpan d cs σ → IsStep ss n → IsItem d (cs ++ ss) (σ, n)

/-- A field is a list of items with commas between them. -/
inductive IsField (d : Domain) : List Char → List (Span ℤ × ℕ) → Prop
  | last {cs : List Char} {i : Span ℤ × ℕ} : IsItem d cs i → IsField d cs [i]
  | cons {cs rest : List Char} {i : Span ℤ × ℕ} {is : List (Span ℤ × ℕ)} :
      IsItem d cs i → IsField d rest is → IsField d (cs ++ ',' :: rest) (i :: is)

/-- The values of a span when every `n`-th value counts. A range whose first value is greater than its
last one runs to the end of the domain and begins again at its start; there the values are counted as
if the values of the first part stood right before zero. -/
def Span.Holds (d : Domain) (n : ℕ) : Span ℤ → ℤ → Prop
  | .all, x => (d.min ≤ x ∧ x ≤ d.max) ∧ (n : ℤ) ∣ x - d.min
  | .one v, x => x = v
  | .between v w, x =>
    if v ≤ w then (v ≤ x ∧ x ≤ w) ∧ (n : ℤ) ∣ x - v
    else (v ≤ x ∧ x ≤ d.max) ∧ (n : ℤ) ∣ x - v ∨
      (d.min ≤ x ∧ x ≤ w) ∧ (n : ℤ) ∣ x + d.max - v + 1

/-! ### Names -/

/-- The names of a domain are words of plain letters. -/
def Domain.HasPlainNames (d : Domain) : Prop :=
  ∀ t, d.names = some t → ∀ w v, t.find? w = some v → w ≠ "" ∧ ∀ c ∈ w.toList, Text.IsPlain c

/-- A name that is found is one of the table. -/
lemma NameTable.mem_of_find? {t : NameTable} {w : String} {v : ℤ} (h : t.find? w = some v) :
    (w, v) ∈ t.entries := by
  rw [find?, List.lookup_eq_some_iff] at h
  obtain ⟨before, after, heq, -⟩ := h
  rw [heq]
  simp

theorem Domain.hasPlainNames_of_mem_all {d : Domain} (h : d ∈ Domain.all) : d.HasPlainNames := by
  have hplain : ∀ t ∈ [NameTable.months, NameTable.weekdays], ∀ e ∈ t.entries,
      e.1 ≠ "" ∧ (e.1.toList.all fun c => decide (Text.IsPlain c)) = true := by decide +kernel
  intro t ht w v hw
  have htable : t ∈ [NameTable.months, NameTable.weekdays] := by
    simp only [Domain.all, List.mem_cons, List.not_mem_nil, or_false] at h
    rcases h with rfl | rfl | rfl | rfl | rfl <;>
      simp_all [minute, hour, dayOfMonth, month, dayOfWeek]
  obtain ⟨hne, hletters⟩ := hplain t htable (w, v) (NameTable.mem_of_find? hw)
  refine ⟨hne, fun c hc => ?_⟩
  have := List.all_eq_true.mp hletters c hc
  exact of_decide_eq_true this

/-! ### The characters of an item -/

/-- The characters of values: digits and the letters of names. -/
def IsTokenChar (c : Char) : Prop := c.isDigit = true ∨ Text.IsPlain c.toLower

instance (c : Char) : Decidable (IsTokenChar c) := inferInstanceAs (Decidable (_ ∨ _))

/-- What can be checked of the ASCII characters one by one holds of each of them. -/
lemma forall_ascii {P : Char → Prop} (h : ∀ n : Fin 128, P (Char.ofNat n)) {c : Char}
    (hc : c.toNat < 128) : P c := by
  have := h ⟨c.toNat, hc⟩
  rwa [Char.ofNat_toNat] at this

lemma toNat_lt_of_isDigit {c : Char} (h : c.isDigit = true) : c.toNat < 128 := by
  have := Numeral.toNat_of_isDigit h
  omega

lemma IsTokenChar.toNat_lt {c : Char} (h : IsTokenChar c) : c.toNat < 128 := by
  rcases h with hdigit | hplain
  · exact toNat_lt_of_isDigit hdigit
  · exact Text.toNat_lt_of_isPlain_toLower hplain

/-- The characters of values lay nothing out. -/
lemma IsTokenChar.ne_special {c : Char} (h : IsTokenChar c) :
    c ≠ ',' ∧ c ≠ '-' ∧ c ≠ '/' ∧ c ≠ '*' ∧ Text.isBlank c = false :=
  forall_ascii (P := fun c => IsTokenChar c →
      c ≠ ',' ∧ c ≠ '-' ∧ c ≠ '/' ∧ c ≠ '*' ∧ Text.isBlank c = false)
    (by decide +kernel) h.toNat_lt h

/-- A digit is no letter. -/
lemma not_isPlain_toLower_of_isDigit {c : Char} (h : c.isDigit = true) :
    ¬ Text.IsPlain c.toLower :=
  forall_ascii (P := fun c => c.isDigit = true → ¬ Text.IsPlain c.toLower)
    (by decide +kernel) (toNat_lt_of_isDigit h) h

variable {d : Domain}

/-- A value has characters, and all of them are characters of values. -/
lemma IsValue.tokenChars (hd : d.HasPlainNames) {cs : List Char} {v : ℤ} (h : IsValue d cs v) :
    cs ≠ [] ∧ ∀ c ∈ cs, IsTokenChar c := by
  cases h with
  | numeral hdigits => exact ⟨hdigits.ne_nil, fun c hc => Or.inl (hdigits.digits c hc)⟩
  | @name t _ w _ ht hw hcs =>
      obtain ⟨hne, hplain⟩ := hd t ht w v hw
      refine ⟨?_, fun c hc => Or.inr (hplain _ ?_)⟩
      · rintro rfl
        exact hne (String.toList_eq_nil_iff.mp hcs.symm)
      · rw [← hcs]
        exact List.mem_map_of_mem hc

/-- The character may stand in an item: it is neither a comma nor a blank. -/
def IsItemChar (c : Char) : Prop := c ≠ ',' ∧ Text.isBlank c = false

instance (c : Char) : Decidable (IsItemChar c) := inferInstanceAs (Decidable (_ ∧ _))

/-- The character may stand in a span: it is not a slash either. -/
def IsSpanChar (c : Char) : Prop := c ≠ '/' ∧ IsItemChar c

lemma IsTokenChar.isSpanChar {c : Char} (h : IsTokenChar c) : IsSpanChar c :=
  ⟨h.ne_special.2.2.1, h.ne_special.1, h.ne_special.2.2.2.2⟩

lemma isSpanChar_hyphen : IsSpanChar '-' := ⟨by decide, by decide, by decide⟩

lemma IsLastValue.spanChars (hd : d.HasPlainNames) {cs : List Char} {v : ℤ}
    (h : IsLastValue d cs v) : ∀ c ∈ cs, IsSpanChar c := by
  cases h with
  | value hv => exact fun c hc => ((hv.tokenChars hd).2 c hc).isSpanChar
  | signed hdigits =>
      intro c hc
      rcases List.mem_cons.mp hc with rfl | hc
      · exact isSpanChar_hyphen
      · exact IsTokenChar.isSpanChar (Or.inl (hdigits.digits c hc))

/-- A span has neither slashes nor commas nor blanks. -/
lemma IsSpan.spanChars (hd : d.HasPlainNames) {cs : List Char} {σ : Span ℤ} (h : IsSpan d cs σ) :
    ∀ c ∈ cs, IsSpanChar c := by
  cases h with
  | all =>
      intro c hc
      obtain rfl := List.mem_singleton.mp hc
      exact ⟨by decide, by decide, by decide⟩
  | one hv _ => exact fun c hc => ((hv.tokenChars hd).2 c hc).isSpanChar
  | between hv hw _ _ =>
      intro c hc
      rcases List.mem_append.mp hc with hc | hc
      · exact ((hv.tokenChars hd).2 c hc).isSpanChar
      · rcases List.mem_cons.mp hc with rfl | hc
        · exact isSpanChar_hyphen
        · exact hw.spanChars hd c hc

/-- An item has neither commas nor blanks. -/
lemma IsItem.itemChars (hd : d.HasPlainNames) {cs : List Char} {i : Span ℤ × ℕ}
    (h : IsItem d cs i) : ∀ c ∈ cs, IsItemChar c := by
  cases h with
  | mk hspan hstep =>
      intro c hc
      rcases List.mem_append.mp hc with hc | hc
      · exact (hspan.spanChars hd c hc).2
      · cases hstep with
        | none => cases hc
        | some hdigits _ =>
            rcases List.mem_cons.mp hc with rfl | hc
            · exact ⟨by decide, by decide⟩
            · exact (IsTokenChar.isSpanChar (Or.inl (hdigits.digits c hc))).2

/-- An item has characters. -/
lemma IsItem.ne_nil (hd : d.HasPlainNames) {cs : List Char} {i : Span ℤ × ℕ} (h : IsItem d cs i) :
    cs ≠ [] := by
  cases h with
  | mk hspan _ =>
      refine List.append_ne_nil_of_left_ne_nil ?_ _
      cases hspan with
      | all => exact List.cons_ne_nil _ _
      | one hv _ => exact (hv.tokenChars hd).1
      | between hv _ _ _ => exact List.append_ne_nil_of_left_ne_nil (hv.tokenChars hd).1 _

/-- A field is a word. -/
lemma IsField.isWord (hd : d.HasPlainNames) {cs : List Char} {is : List (Span ℤ × ℕ)}
    (h : IsField d cs is) : Text.IsWord cs := by
  induction h with
  | last hi => exact ⟨hi.ne_nil hd, fun c hc => (hi.itemChars hd c hc).2⟩
  | cons hi _ ih =>
      refine ⟨List.append_ne_nil_of_left_ne_nil (hi.ne_nil hd) _, fun c hc => ?_⟩
      rcases List.mem_append.mp hc with hc | hc
      · exact (hi.itemChars hd c hc).2
      · rcases List.mem_cons.mp hc with rfl | hc
        · decide
        · exact ih.not_blank c hc

end CronPreview
