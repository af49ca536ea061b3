/-
Fields are read as the grammar says.

* `Token.resolve_eq_ok_iff`: a token is resolved to the value that it is written for;
* `Item.cutSpan_append`, `Item.cut_append_step`: where a range and an item are cut;
* `isSpan_iff`, `isItem_iff`: the cuts at the first slash and the first hyphen find the parts of an item.
-/
import CronPreview.Field.Basic
import CronPreview.Proofs.Field.Values
import CronPreview.Proofs.Outcome

namespace CronPreview

/-! ### Tokens and steps -/

lemma isDigits_iff {ds : List Char} :
    IsDigits ds ↔ Numeral.isNumeral ds = true ∧ ds.length ≤ Numeral.maxDigits := by
  rw [Numeral.isNumeral, Bool.and_eq_true, Bool.not_eq_true', List.isEmpty_eq_false_iff,
    List.all_eq_true]
  constructor
  · rintro ⟨hne, hdigits, hlength⟩
    exact ⟨⟨hne, hdigits⟩, hlength⟩
  · rintro ⟨⟨hne, hdigits⟩, hlength⟩
    exact ⟨hne, hdigits, hlength⟩

/-- A numeral that is not too long is read as its value. -/
lemma Numeral.read_eq_ok_iff {ds : List Char} {n : ℕ} :
    Numeral.read ds = .ok n ↔ ds.length ≤ Numeral.maxDigits ∧ n = Numeral.value ds := by
  rw [Numeral.read]
  split
  · next h =>
      simp only [reduceCtorEq, false_iff, not_and]
      omega
  · next h =>
      rw [Except.ok.injEq, eq_comm]
      exact ⟨fun hn => ⟨by omega, hn⟩, fun hn => hn.2⟩

namespace Token

/-- A numeral is read with a minus sign or without a sign. -/
lemma readInt_eq_ok_iff {cs : List Char} {v : ℤ} :
    readInt cs = .ok v ↔ IsDigits cs ∧ v = Numeral.value cs ∨
      ∃ ds, cs = '-' :: ds ∧ IsDigits ds ∧ v = -Numeral.value ds := by
  have hminus : ∀ ds, ¬ IsDigits ('-' :: ds) := fun ds h =>
    absurd (h.digits '-' List.mem_cons_self) (by decide)
  have hnumeral : ∀ (ds : List Char) (f : ℕ → ℤ) (v : ℤ),
      (if Numeral.isNumeral ds then ((Numeral.read ds).map f).mapError .longNumeral
        else .error ItemError.invalidToken) = .ok v ↔ IsDigits ds ∧ v = f (Numeral.value ds) := by
    intro ds f v
    by_cases h : Numeral.isNumeral ds = true
    · rw [if_pos h, Except.mapError_eq_ok_iff, Except.map_eq_ok_iff, isDigits_iff]
      simp only [Numeral.read_eq_ok_iff, h, true_and]
      constructor
      · rintro ⟨n, ⟨hlength, rfl⟩, rfl⟩
        exact ⟨hlength, rfl⟩
      · rintro ⟨hlength, rfl⟩
        exact ⟨_, ⟨hlength, rfl⟩, rfl⟩
    · rw [if_neg h, isDigits_iff]
      simp [h]
  rw [readInt.eq_def]
  split
  · next ds =>
      rw [hnumeral ds fun (n : ℕ) => -(n : ℤ)]
      constructor
      · rintro ⟨hdigits, rfl⟩
        exact Or.inr ⟨ds, rfl, hdigits, rfl⟩
      · rintro (⟨hdigits, -⟩ | ⟨ds', heq, hdigits, rfl⟩)
        · exact absurd hdigits (hminus ds)
        · cases heq
          exact ⟨hdigits, rfl⟩
  · next hne =>
      rw [hnumeral cs fun (n : ℕ) => (n : ℤ)]
      constructor
      · rintro ⟨hdigits, rfl⟩
        exact Or.inl ⟨hdigits, rfl⟩
      · rintro (h | ⟨ds, rfl, -⟩)
        · exact h
        · exact absurd rfl (hne ds)

/-- **A token is resolved to the value that it is written for.** A token that is written as a name is
found in the table, and one that is written as a numeral is not. -/
theorem resolve_eq_ok_iff {d : Domain} (hd : d.HasPlainNames) {cs : List Char} {v : ℤ} :
    resolve d.names 0 cs = .ok v ↔ IsLastValue d cs v := by
  have hname : ∀ {t w u}, d.names = some t → t.find? w = some u →
      (cs.map Char.toLower = w.toList ↔ String.ofList (Text.lower cs) = w) := by
    intro t w u ht hw
    rw [← Text.lower_eq_iff (hd t ht w u hw).2]
    constructor
    · intro h
      rw [h, String.ofList_toList]
    · rintro rfl
      rw [String.toList_ofList]
  rw [resolve]
  cases hfind : d.names.bind fun t => t.find? (String.ofList (Text.lower cs)) with
  | some u =>
      obtain ⟨t, ht, hu⟩ := Option.bind_eq_some_iff.mp hfind
      have hcs := (hname ht hu).mpr rfl
      simp only [Int.add_zero, Except.ok.injEq]
      constructor
      · rintro rfl
        exact .value (.name ht hu hcs)
      · intro h
        have hletters : ∀ c ∈ cs, Text.IsPlain c.toLower := fun c hc =>
          (hd t ht _ u hu).2 _ (by rw [← hcs]; exact List.mem_map_of_mem hc)
        cases h with
        | value hv =>
            cases hv with
            | numeral hdigits =>
                obtain ⟨c, hc⟩ := List.exists_mem_of_ne_nil _ hdigits.ne_nil
                exact absurd (hletters c hc) (not_isPlain_toLower_of_isDigit (hdigits.digits c hc))
            | name ht' hw' hcs' =>
                rw [ht] at ht'
                cases ht'
                rw [(hname ht hw').mp hcs'] at hu
                rw [hu] at hw'
                exact Option.some.inj hw'
        | signed _ => exact absurd (hletters '-' List.mem_cons_self) (by decide)
  | none =>
      simp only
      rw [readInt_eq_ok_iff]
      constructor
      · rintro (⟨hdigits, rfl⟩ | ⟨ds, rfl, hdigits, rfl⟩)
        · exact .value (.numeral hdigits)
        · exact .signed hdigits
      · intro h
        cases h with
        | value hv =>
            cases hv with
            | numeral hdigits => exact Or.inl ⟨hdigits, rfl⟩
            | @name t _ w _ ht hw hcs =>
                rw [ht, Option.bind_some, (hname ht hw).mp hcs, hw] at hfind
                cases hfind
        | signed hdigits => exact Or.inr ⟨_, rfl, hdigits, rfl⟩

end Token

namespace Item

/-- Without a slash the step is one. -/
lemma step_none_eq_ok_iff {σ : Span (List Char)} {n : ℕ} :
    step ⟨σ, none⟩ = .ok n ↔ IsStep [] n := by
  constructor
  · intro h
    cases h
    exact .none
  · intro h
    cases h
    rfl

/-- What stands behind the slash is read as the step that is written there. -/
lemma step_some_eq_ok_iff {σ : Span (List Char)} {ds : List Char} {n : ℕ} :
    step ⟨σ, some ds⟩ = .ok n ↔ IsStep ('/' :: ds) n := by
  have hread : step ⟨σ, some ds⟩ = .ok n ↔
      IsDigits ds ∧ 1 ≤ Numeral.value ds ∧ n = Numeral.value ds := by
    simp only [step]
    rw [isDigits_iff]
    by_cases h : Numeral.isNumeral ds = true
    · rw [if_pos h]
      cases hn : Numeral.read ds with
      | error e =>
          rw [Numeral.read] at hn
          split at hn
          · next hlong =>
              have : ¬ ds.length ≤ Numeral.maxDigits := by omega
              simp [this]
          · cases hn
      | ok m =>
          obtain ⟨hlength, rfl⟩ := Numeral.read_eq_ok_iff.mp hn
          cases hm : Numeral.value ds with
          | zero => simp
          | succ m => simp [h, hlength, eq_comm]
    · rw [if_neg h]
      simp [h]
  rw [hread]
  constructor
  · rintro ⟨hdigits, hpos, rfl⟩
    exact .some hdigits hpos
  · intro h
    cases h with
    | some hdigits hpos => exact ⟨hdigits, hpos, rfl⟩

end Item

/-! ### Spans and items -/

/-- The tokens of a span that was cut out of a text are written for the values of another one, which
lie in the domain. -/
def Span.Resolves (d : Domain) : Span (List Char) → Span ℤ → Prop
  | .all, σ => σ = .all
  | .one cs, σ => ∃ v, IsLastValue d cs v ∧ d.Contains (d.normalize v) ∧ σ = .one (d.normalize v)
  | .between cs ds, σ => ∃ v w, IsLastValue d cs v ∧ IsLastValue d ds w ∧
      (d.Contains (d.normalize v) ∧ d.Contains (d.normalize w)) ∧
      σ = .between (d.normalize v) (d.normalize w)

variable {d : Domain} {cs : List Char}

namespace Item

/-- A text without a hyphen is a lone value, unless it is a star. -/
lemma cutSpan_of_not_mem (h : '-' ∉ cs) (hstar : cs ≠ ['*']) : cutSpan cs = .one cs := by
  rw [cutSpan, if_neg hstar, Text.cutAt_of_not_mem h]

/-- A text is a range from what stands before its first hyphen to what stands behind it. -/
lemma cutSpan_append (h : '-' ∉ cs) (ds : List Char) : cutSpan (cs ++ '-' :: ds) = .between cs ds := by
  have hstar : cs ++ '-' :: ds ≠ ['*'] := by
    intro heq
    have hmem : '-' ∈ cs ++ '-' :: ds := by simp
    rw [heq] at hmem
    exact absurd hmem (by decide)
  rw [cutSpan, if_neg hstar, Text.cutAt_append h]

/-- What stands before the first slash is the range of an item. -/
lemma cut_append (h : '/' ∉ cs) (rest : List Char) :
    cut (cs ++ rest) = ⟨cutSpan (cs ++ (Text.cutAt '/' rest).1), (Text.cutAt '/' rest).2⟩ := by
  rw [cut, Text.cutAt_append_of_not_mem h]

lemma cutAt_step {step : List Char} (h : ∀ c ∈ step.head?, c = '/') : (Text.cutAt '/' step).1 = [] := by
  cases step with
  | nil => rfl
  | cons c rest => rw [Text.cutAt, if_pos (h c rfl)]

/-- An item is cut where its step begins. -/
lemma cut_append_step {step : List Char} (h : '/' ∉ cs) (hstep : ∀ c ∈ step.head?, c = '/') :
    cut (cs ++ step) = ⟨cutSpan cs, (Text.cutAt '/' step).2⟩ := by
  rw [cut_append h, cutAt_step hstep, List.append_nil]

end Item

/-- A value without a hyphen has no sign. -/
lemma IsLastValue.isValue {v : ℤ} (h : IsLastValue d cs v) (hcs : '-' ∉ cs) : IsValue d cs v := by
  cases h with
  | value hv => exact hv
  | signed _ => exact absurd List.mem_cons_self hcs

/-- A value without a sign stays in one piece wherever an item is cut. -/
lemma IsValue.uncut (hd : d.HasPlainNames) {v : ℤ} (h : IsValue d cs v) :
    '-' ∉ cs ∧ '/' ∉ cs ∧ cs ≠ ['*'] := by
  have hchars := (h.tokenChars hd).2
  refine ⟨fun hmem => (hchars '-' hmem).ne_special.2.1 rfl,
    fun hmem => (hchars '/' hmem).ne_special.2.2.1 rfl, ?_⟩
  rintro rfl
  exact (hchars '*' List.mem_cons_self).ne_special.2.2.2.1 rfl

/-- **The cut at the first hyphen finds the values of a span.** -/
theorem isSpan_iff (hd : d.HasPlainNames) {σ : Span ℤ} :
    IsSpan d cs σ ↔ (Item.cutSpan cs).Resolves d σ := by
  constructor
  · intro h
    cases h with
    | all => rfl
    | one hv hin =>
        obtain ⟨hhyphen, -, hstar⟩ := hv.uncut hd
        rw [Item.cutSpan_of_not_mem hhyphen hstar]
        exact ⟨_, .value hv, hin, rfl⟩
    | @between cs ds v w hv hw hvin hwin =>
        rw [Item.cutSpan_append (hv.uncut hd).1]
        exact ⟨v, w, .value hv, hw, ⟨hvin, hwin⟩, rfl⟩
  · rw [Item.cutSpan]
    by_cases hstar : cs = ['*']
    · rw [if_pos hstar, hstar]
      intro h
      rw [show σ = .all from h]
      exact .all
    · rw [if_neg hstar]
      rcases Text.cutAt_cases '-' cs with ⟨hcs, hcut⟩ | ⟨before, after, rfl, hbefore, hcut⟩
      · rw [hcut]
        rintro ⟨v, hv, hin, rfl⟩
        exact .one (hv.isValue hcs) hin
      · rw [hcut]
        rintro ⟨v, w, hv, hw, ⟨hvin, hwin⟩, rfl⟩
        exact .between (hv.isValue hbefore) hw hvin hwin

/-- **The cut at the first slash finds the span and the step of an item.** -/
theorem isItem_iff (hd : d.HasPlainNames) {σ : Span ℤ} {n : ℕ} :
    IsItem d cs (σ, n) ↔ (Item.cut cs).span.Resolves d σ ∧ (Item.cut cs).step = .ok n := by
  constructor
  · intro h
    cases h with
    | @mk cs ss _ _ hspan hstep =>
        have hslash : '/' ∉ cs := fun hmem => (hspan.spanChars hd '/' hmem).1 rfl
        have hresolves := (isSpan_iff hd).mp hspan
        cases ss with
        | nil =>
            rw [List.append_nil, Item.cut, Text.cutAt_of_not_mem hslash]
            exact ⟨hresolves, Item.step_none_eq_ok_iff.mpr hstep⟩
        | cons c ds =>
            have hc : c = '/' := by
              cases hstep
              rfl
            subst hc
            rw [Item.cut, Text.cutAt_append hslash]
            exact ⟨hresolves, Item.step_some_eq_ok_iff.mpr hstep⟩
  · rcases Text.cutAt_cases '/' cs with ⟨-, hcut⟩ | ⟨before, after, rfl, -, hcut⟩
    · rw [Item.cut, hcut]
      rintro ⟨hspan, hstep⟩
      have := IsItem.mk ((isSpan_iff hd).mpr hspan) (Item.step_none_eq_ok_iff.mp hstep)
      rwa [List.append_nil] at this
    · rw [Item.cut, hcut]
      rintro ⟨hspan, hstep⟩
      exact .mk ((isSpan_iff hd).mpr hspan) (Item.step_some_eq_ok_iff.mp hstep)

end CronPreview
