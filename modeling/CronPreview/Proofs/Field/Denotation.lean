/-
The sets for which fields stand.

* `Item.expand_eq_ok_iff`: an item that can be expanded is one of the grammar, and gives its values;
* `isField_iff`: the cuts at the commas find the items of a field;
* `Field.Means`: the set for which a field of the grammar stands;
* `Field.parse_eq_ok_iff`: a field that can be read is one of the grammar, and gives the set for which
  it stands.
-/
import CronPreview.Field.Basic
import CronPreview.Proofs.Field.Reading

namespace CronPreview

variable {d : Domain}

/-! ### Items -/

/-- A token is written for one value only. -/
lemma IsLastValue.unique (hd : d.HasPlainNames) {cs : List Char} {v w : ℤ}
    (hv : IsLastValue d cs v) (hw : IsLastValue d cs w) : v = w := by
  have h₁ := (Token.resolve_eq_ok_iff hd).mpr hv
  have h₂ := (Token.resolve_eq_ok_iff hd).mpr hw
  rw [h₁] at h₂
  cases h₂
  rfl

namespace Item

/-- The ends of a range are the values to which its tokens are resolved, with the days of the week counted from
Sunday. -/
lemma ends_eq_pair_iff {as bs : List Char} {v w : ℤ} :
    ends d as bs = .ok (v, w) ↔ ∃ x y, Token.resolve d.names 0 as = .ok x ∧
      Token.resolve d.names 0 bs = .ok y ∧ v = d.normalize x ∧ w = d.normalize y := by
  simp only [ends, Except.bind_eq_ok_iff]
  constructor
  · rintro ⟨x, hx, y, hy, h⟩
    cases h
    exact ⟨x, y, hx, hy, rfl, rfl⟩
  · rintro ⟨x, y, hx, hy, rfl, rfl⟩
    exact ⟨x, hx, y, hy, rfl⟩

lemma ends_eq_ok_iff (hd : d.HasPlainNames) {as bs : List Char} {e : ℤ × ℤ} :
    ends d as bs = .ok e ↔
      ∃ v w, IsLastValue d as v ∧ IsLastValue d bs w ∧ e = (d.normalize v, d.normalize w) := by
  obtain ⟨x, y⟩ := e
  simp only [ends_eq_pair_iff, Token.resolve_eq_ok_iff hd, Prod.mk.injEq]

lemma valuesBetween_eq_ok_iff {n : ℕ} {e : ℤ × ℤ} {l : List ℤ} :
    valuesBetween d n e = .ok l ↔
      (d.Contains e.1 ∧ d.Contains e.2) ∧ l = ranged d e.1 e.2 n := by
  rw [valuesBetween]
  split
  · next h => simp [h, eq_comm]
  · next h => simp [h]

/-- The values that are generated for an item which was cut out of a text. -/
lemma values_eq_ok_iff (hd : d.HasPlainNames) {i : Item} {l : List ℤ} :
    i.values d = .ok l ↔
      ∃ σ n, (i.span.Resolves d σ ∧ i.step = .ok n) ∧ l = σ.values d n := by
  rw [values, Except.bind_eq_ok_iff]
  constructor
  · rintro ⟨n, hn, h⟩
    cases hspan : i.span with
    | all =>
        rw [hspan] at h
        cases h
        exact ⟨.all, n, ⟨rfl, hn⟩, rfl⟩
    | one as =>
        simp only [hspan, Except.bind_eq_ok_iff, ends_eq_ok_iff hd,
          valuesBetween_eq_ok_iff] at h
        obtain ⟨e, ⟨v, w, hv, hw, rfl⟩, ⟨hin, -⟩, rfl⟩ := h
        obtain rfl := hv.unique hd hw
        exact ⟨.one (d.normalize v), n, ⟨⟨v, hv, hin, rfl⟩, hn⟩, rfl⟩
    | between as bs =>
        simp only [hspan, Except.bind_eq_ok_iff, ends_eq_ok_iff hd,
          valuesBetween_eq_ok_iff] at h
        obtain ⟨e, ⟨v, w, hv, hw, rfl⟩, hin, rfl⟩ := h
        exact ⟨.between (d.normalize v) (d.normalize w), n,
          ⟨⟨v, w, hv, hw, hin, rfl⟩, hn⟩, rfl⟩
  · rintro ⟨σ, n, ⟨hσ, hn⟩, rfl⟩
    refine ⟨n, hn, ?_⟩
    cases hspan : i.span with
    | all =>
        rw [hspan] at hσ
        rw [show σ = .all from hσ]
        rfl
    | one as =>
        rw [hspan] at hσ
        obtain ⟨v, hv, hin, rfl⟩ := hσ
        simp only [Except.bind_eq_ok_iff, ends_eq_ok_iff hd, valuesBetween_eq_ok_iff]
        exact ⟨_, ⟨v, v, hv, hv, rfl⟩, ⟨hin, hin⟩, rfl⟩
    | between as bs =>
        rw [hspan] at hσ
        obtain ⟨v, w, hv, hw, hin, rfl⟩ := hσ
        simp only [Except.bind_eq_ok_iff, ends_eq_ok_iff hd, valuesBetween_eq_ok_iff]
        exact ⟨_, ⟨v, w, hv, hw, rfl⟩, hin, rfl⟩

/-- **An item that can be expanded is one of the grammar, and gives its values.** -/
theorem expand_eq_ok_iff (hd : d.HasPlainNames) {cs : List Char} {l : List ℤ} :
    expand d cs = .ok l ↔ ∃ i : Span ℤ × ℕ, IsItem d cs i ∧ l = i.1.values d i.2 := by
  rw [expand, Except.mapError_eq_ok_iff, values_eq_ok_iff hd]
  constructor
  · rintro ⟨σ, n, h, rfl⟩
    exact ⟨(σ, n), (isItem_iff hd).mpr h, rfl⟩
  · rintro ⟨⟨σ, n⟩, h, rfl⟩
    exact ⟨σ, n, (isItem_iff hd).mp h, rfl⟩

lemma exists_expand_iff (hd : d.HasPlainNames) {cs : List Char} :
    (∃ l, expand d cs = .ok l) ↔ ∃ i, IsItem d cs i := by
  simp only [expand_eq_ok_iff hd]
  constructor
  · rintro ⟨_, i, hi, -⟩
    exact ⟨i, hi⟩
  · rintro ⟨i, hi⟩
    exact ⟨_, i, hi, rfl⟩

end Item

/-! ### Lists of items -/

/-- **The cuts at the commas find the items of a field.** -/
theorem isField_iff (hd : d.HasPlainNames) {cs : List Char} {is : List (Span ℤ × ℕ)} :
    IsField d cs is ↔ List.Forall₂ (IsItem d) (Text.pieces (· == ',') cs) is := by
  have hcomma : ∀ {cs i}, IsItem d cs i → ∀ c ∈ cs, (c == ',') = false := fun hi c hc =>
    beq_eq_false_iff_ne.mpr (hi.itemChars hd c hc).1
  constructor
  · intro h
    induction h with
    | last hi =>
        rw [Text.pieces_of_forall (hcomma hi)]
        exact .cons hi .nil
    | cons hi _ ih =>
        rw [Text.pieces_append (hcomma hi) rfl]
        exact .cons hi ih
  · intro h
    -- Induction on the length: the text after the first comma is shorter.
    induction hn : cs.length using Nat.strong_induction_on generalizing cs is with
    | _ n ih =>
        rcases Text.pieces_cases (· == ',') cs with ⟨-, hp⟩ | ⟨w, sep, rest, rfl, -, hsep, hp⟩
        · rw [hp] at h
          cases h with
          | cons hi hnil =>
              cases hnil
              exact .last hi
        · rw [hp] at h
          cases h with
          | cons hi hrest =>
              have hlt : rest.length < n := by
                rw [← hn, List.length_append, List.length_cons]
                omega
              rw [beq_iff_eq.mp hsep]
              exact .cons hi (ih _ hlt hrest rfl)

/-- The steps of a field are positive. -/
lemma IsField.one_le {cs : List Char} {is : List (Span ℤ × ℕ)} (h : IsField d cs is) :
    ∀ i ∈ is, 1 ≤ i.2 := by
  have hitem : ∀ {cs i}, IsItem d cs i → 1 ≤ i.2 := by
    intro cs i hi
    cases hi with
    | mk _ hstep =>
        cases hstep with
        | none => exact le_refl 1
        | some _ hpos => exact hpos
  induction h with
  | last hi => simpa using hitem hi
  | cons hi _ ih => simpa using And.intro (hitem hi) ih

namespace Field

/-- The field is one of the grammar, and the set holds the values of its items. -/
def Means (d : Domain) (cs : List Char) (s : FieldSet) : Prop :=
  ∃ is, IsField d cs is ∧ ∀ x, x ∈ s ↔ ∃ i ∈ is, i.1.Holds d i.2 x

/-- The values of a list of items, collected in a set. -/
lemma mem_ofList_values {cs : List Char} {is : List (Span ℤ × ℕ)} (h : IsField d cs is) {x : ℤ} :
    x ∈ FieldSet.ofList (is.map fun i => i.1.values d i.2).flatten ↔
      ∃ i ∈ is, i.1.Holds d i.2 x := by
  rw [FieldSet.mem_ofList, List.mem_flatten]
  constructor
  · rintro ⟨l, hl, hx⟩
    obtain ⟨i, hi, rfl⟩ := List.mem_map.mp hl
    exact ⟨i, hi, (Span.mem_values (h.one_le i hi)).mp hx⟩
  · rintro ⟨i, hi, hx⟩
    exact ⟨_, List.mem_map_of_mem hi, (Span.mem_values (h.one_le i hi)).mpr hx⟩

/-- A list of items can be expanded when each of them is one of the grammar. -/
lemma mapM_expand_eq_ok_iff (hd : d.HasPlainNames) {ws : List (List Char)} {ls : List (List ℤ)} :
    ws.mapM (Item.expand d) = .ok ls ↔
      ∃ is, List.Forall₂ (IsItem d) ws is ∧ ls = is.map fun i => i.1.values d i.2 := by
  rw [Except.mapM_eq_ok_iff]
  constructor
  · intro h
    induction h with
    | nil => exact ⟨[], .nil, rfl⟩
    | cons hl _ ih =>
        obtain ⟨i, hi, rfl⟩ := (Item.expand_eq_ok_iff hd).mp hl
        obtain ⟨is, his, rfl⟩ := ih
        exact ⟨i :: is, .cons hi his, rfl⟩
  · rintro ⟨is, h, rfl⟩
    induction h with
    | nil => exact .nil
    | cons hi _ ih => exact .cons ((Item.expand_eq_ok_iff hd).mpr ⟨_, hi, rfl⟩) ih

/-- A word has no blanks that could be trimmed from its items. -/
lemma items_of_isWord {cs : List Char} (h : Text.IsWord cs) :
    items cs = Text.pieces (· == ',') cs := by
  rw [items]
  refine (List.map_congr_left fun w hw => ?_).trans (List.map_id _)
  exact Text.trim_of_not_blank fun c hc => h.not_blank c (Text.mem_of_mem_pieces hw hc)

/-- A lone star has the values that it has as an item of a list. -/
lemma expandAll_star : expandAll d [['*']] = .ok (.ofList (interval d.min d.max)) := by
  have hstrided : strided d.min d.max 1 = interval d.min d.max := by
    simp only [strided, interval, Nat.cast_one, Int.ediv_one, Int.mul_one]
    rw [show d.max - d.min + 1 = d.max + 1 - d.min by omega]
  have hexpand : Item.expand d ['*'] = .ok (strided d.min d.max 1) := rfl
  rw [expandAll, List.mapM_cons, hexpand, hstrided]
  simp [pure, Except.pure, Bind.bind, Except.bind, Except.map]

/-- A word is read as its items are, one after the other. -/
lemma parse_of_isWord {cs : List Char} (hcs : Text.IsWord cs) :
    parse d cs = expandAll d (Text.pieces (· == ',') cs) := by
  simp only [parse, Text.trim_of_not_blank hcs.not_blank, hcs.ne_nil, if_false,
    items_of_isWord hcs]
  split
  · next hstar =>
      subst hstar
      exact expandAll_star.symm
  · rfl

/-- **A field that can be read is one of the grammar, and gives the set for which it stands.** -/
theorem parse_eq_ok_iff (hd : d.HasPlainNames) {cs : List Char} (hcs : Text.IsWord cs)
    {s : FieldSet} : parse d cs = .ok s ↔ Means d cs s := by
  rw [parse_of_isWord hcs, expandAll, Except.map_eq_ok_iff]
  simp only [mapM_expand_eq_ok_iff hd, ← isField_iff hd]
  constructor
  · rintro ⟨ls, ⟨is, his, rfl⟩, rfl⟩
    exact ⟨is, his, fun x => mem_ofList_values his⟩
  · rintro ⟨is, his, hs⟩
    refine ⟨_, ⟨is, his, rfl⟩, FieldSet.ext_mem fun x => ?_⟩
    rw [mem_ofList_values his, hs]

end Field

end CronPreview
