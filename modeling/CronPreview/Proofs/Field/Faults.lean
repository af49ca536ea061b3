/-
What is wrong with an item, when it cannot be read.

* `StepFault`, `TokenFault`, `SpanFault`, `ItemFault`: the first fault of a step, a token, a span and an
  item, in the order in which they are read: the step, the first token, the second one, and then the
  bounds of the domain; a numeral that is too long is a fault where it would be converted;
* `Item.expand_eq_error_iff`: an item that cannot be expanded has a first fault, and is told of it;
* `ItemFault.long_lt_length`: a numeral that is too long makes its item too long;
* `Field.parse_eq_error_iff`: the first item with a fault decides for its field.
-/
import CronPreview.Proofs.Field.Denotation
import CronPreview.Proofs.Text.Joined

namespace CronPreview

/-! ### The faults -/

/-- A run of ASCII digits, of any length. -/
structure IsRun (ds : List Char) : Prop where
  ne_nil : ds ≠ []
  digits : ∀ c ∈ ds, c.isDigit = true

/-- A run of ASCII digits that is too long to be converted. -/
structure IsLong (ds : List Char) : Prop extends IsRun ds where
  lt_length : 4300 < ds.length

/-- The text behind a slash is no positive numeral. -/
inductive StepFault : List Char → ItemError → Prop
  | noNumeral {ds : List Char} : ¬ IsRun ds → StepFault ds .invalidStep
  | tooLong {ds : List Char} : IsLong ds → StepFault ds (.longNumeral ⟨ds.length⟩)
  | zero {ds : List Char} : IsDigits ds → Numeral.value ds = 0 → StepFault ds .invalidStep

/-- The token is a name of the domain, in any letter case. -/
def IsName (d : Domain) (cs : List Char) : Prop :=
  ∃ t w v, d.names = some t ∧ t.find? w = some v ∧ cs.map Char.toLower = w.toList

/-- The token is no name, and no numeral that can be converted. -/
inductive TokenFault (d : Domain) : List Char → ItemError → Prop
  | unresolvable {cs : List Char} :
      ¬ IsName d cs → ¬ IsRun cs → (∀ ds, cs = '-' :: ds → ¬ IsRun ds) →
        TokenFault d cs .invalidToken
  | tooLong {ds : List Char} : IsLong ds → TokenFault d ds (.longNumeral ⟨ds.length⟩)
  | tooLongSigned {ds : List Char} :
      IsLong ds → TokenFault d ('-' :: ds) (.longNumeral ⟨ds.length⟩)

/-- A token of the span cannot be resolved, or the span does not lie in the domain. The span is cut
at its first hyphen, and its first token is resolved first. -/
inductive SpanFault (d : Domain) : List Char → ItemError → Prop
  | one {cs : List Char} {e : ItemError} :
      '-' ∉ cs → cs ≠ ['*'] → TokenFault d cs e → SpanFault d cs e
  | oneOutside {cs : List Char} {v : ℤ} :
      '-' ∉ cs → IsLastValue d cs v → ¬ d.Contains (d.normalize v) → SpanFault d cs .outOfRange
  | first {cs ds : List Char} {e : ItemError} :
      '-' ∉ cs → TokenFault d cs e → SpanFault d (cs ++ '-' :: ds) e
  | last {cs ds : List Char} {v : ℤ} {e : ItemError} :
      '-' ∉ cs → IsLastValue d cs v → TokenFault d ds e → SpanFault d (cs ++ '-' :: ds) e
  | outside {cs ds : List Char} {v w : ℤ} :
      '-' ∉ cs → IsLastValue d cs v → IsLastValue d ds w →
        ¬ (d.Contains (d.normalize v) ∧ d.Contains (d.normalize w)) →
          SpanFault d (cs ++ '-' :: ds) .outOfRange

/-- The step of the item has a fault, or there is none in the step but one in the span. The item is
cut at its first slash. -/
inductive ItemFault (d : Domain) : List Char → ItemError → Prop
  | step {cs ds : List Char} {e : ItemError} :
      '/' ∉ cs → StepFault ds e → ItemFault d (cs ++ '/' :: ds) e
  | span {cs ss : List Char} {n : ℕ} {e : ItemError} :
      '/' ∉ cs → IsStep ss n → SpanFault d cs e → ItemFault d (cs ++ ss) e

/-! ### Tokens and steps -/

lemma isRun_iff {ds : List Char} : IsRun ds ↔ Numeral.isNumeral ds = true := by
  rw [Numeral.isNumeral, Bool.and_eq_true, Bool.not_eq_true', List.isEmpty_eq_false_iff,
    List.all_eq_true]
  exact ⟨fun h => ⟨h.ne_nil, h.digits⟩, fun h => ⟨h.1, h.2⟩⟩

lemma Numeral.read_eq_error_iff {ds : List Char} {n : LongNumeral} :
    Numeral.read ds = .error n ↔ 4300 < ds.length ∧ n = ⟨ds.length⟩ := by
  rw [Numeral.read, Numeral.maxDigits]
  split
  · next h => rw [Except.error.injEq, eq_comm, and_iff_right h]
  · next h => simp [h]

namespace Token

/-- The numeral of a token has no digits, or too many of them. -/
lemma readInt_eq_error_iff {cs : List Char} {e : ItemError} :
    readInt cs = .error e ↔
      (¬ IsRun cs ∧ ∀ ds, cs = '-' :: ds → ¬ IsRun ds) ∧ e = .invalidToken ∨
        ∃ ds, (cs = ds ∨ cs = '-' :: ds) ∧ IsLong ds ∧ e = .longNumeral ⟨ds.length⟩ := by
  have hminus : ∀ ds, ¬ IsRun ('-' :: ds) := fun ds h =>
    absurd (h.digits '-' List.mem_cons_self) (by decide)
  have hnumeral : ∀ (ds : List Char) (f : ℕ → ℤ) (e : ItemError),
      (if Numeral.isNumeral ds then ((Numeral.read ds).map f).mapError .longNumeral
        else .error ItemError.invalidToken) = .error e ↔
        ¬ IsRun ds ∧ e = .invalidToken ∨ IsLong ds ∧ e = .longNumeral ⟨ds.length⟩ := by
    intro ds f e
    by_cases h : IsRun ds
    · rw [if_pos (isRun_iff.mp h), Except.mapError_eq_error_iff]
      simp only [Except.map_eq_error_iff, Numeral.read_eq_error_iff, h, not_true, false_and,
        false_or]
      constructor
      · rintro ⟨n, ⟨hlong, rfl⟩, rfl⟩
        exact ⟨⟨h, hlong⟩, rfl⟩
      · rintro ⟨hlong, rfl⟩
        exact ⟨_, ⟨hlong.lt_length, rfl⟩, rfl⟩
    · have hlong : ¬ IsLong ds := fun hl => h hl.toIsRun
      rw [if_neg (isRun_iff.not.mp h), Except.error.injEq, eq_comm]
      simp [h, hlong]
  rw [readInt.eq_def]
  split
  · next ds =>
      rw [hnumeral ds fun (n : ℕ) => -(n : ℤ)]
      constructor
      · rintro (⟨hrun, rfl⟩ | ⟨hlong, rfl⟩)
        · refine Or.inl ⟨⟨hminus ds, fun ds' h => ?_⟩, rfl⟩
          cases h
          exact hrun
        · exact Or.inr ⟨ds, Or.inr rfl, hlong, rfl⟩
      · rintro (⟨⟨-, hrun⟩, rfl⟩ | ⟨ds', rfl | h, hlong, rfl⟩)
        · exact Or.inl ⟨hrun ds rfl, rfl⟩
        · exact absurd hlong.toIsRun (hminus ds)
        · cases h
          exact Or.inr ⟨hlong, rfl⟩
  · next hne =>
      rw [hnumeral cs fun (n : ℕ) => (n : ℤ)]
      constructor
      · rintro (⟨hrun, rfl⟩ | ⟨hlong, rfl⟩)
        · exact Or.inl ⟨⟨hrun, fun ds h => absurd h (hne ds)⟩, rfl⟩
        · exact Or.inr ⟨cs, Or.inl rfl, hlong, rfl⟩
      · rintro (⟨⟨hrun, -⟩, rfl⟩ | ⟨ds, rfl | rfl, hlong, rfl⟩)
        · exact Or.inl ⟨hrun, rfl⟩
        · exact Or.inr ⟨hlong, rfl⟩
        · exact absurd rfl (hne ds)

end Token

variable {d : Domain}

/-- Whatever a token is written for, it is a name or a numeral of the right length. -/
lemma IsLastValue.cases_run {cs : List Char} {v : ℤ} (h : IsLastValue d cs v) :
    IsName d cs ∨ ∃ ds, (cs = ds ∨ cs = '-' :: ds) ∧ IsDigits ds := by
  cases h with
  | value hv =>
      cases hv with
      | numeral hdigits => exact Or.inr ⟨cs, Or.inl rfl, hdigits⟩
      | name ht hw hcs => exact Or.inl ⟨_, _, _, ht, hw, hcs⟩
  | signed hdigits => exact Or.inr ⟨_, Or.inr rfl, hdigits⟩

lemma IsName.exists_isLastValue {cs : List Char} (h : IsName d cs) : ∃ v, IsLastValue d cs v := by
  obtain ⟨t, w, v, ht, hw, hcs⟩ := h
  exact ⟨v, .value (.name ht hw hcs)⟩

/-- A name has no digit and no sign in it. -/
lemma IsName.isPlain (hd : d.HasPlainNames) {cs : List Char} (h : IsName d cs) :
    ∀ c ∈ cs, Text.IsPlain c.toLower := by
  obtain ⟨t, w, v, ht, hw, hcs⟩ := h
  exact fun c hc => (hd t ht w v hw).2 _ (by rw [← hcs]; exact List.mem_map_of_mem hc)

/-- A run that is too long is neither a name nor a numeral of the right length, with a sign or
without. -/
lemma IsLong.not_isLastValue (hd : d.HasPlainNames) {cs ds : List Char} {v : ℤ} (h : IsLong ds)
    (hcs : cs = ds ∨ cs = '-' :: ds) : ¬ IsLastValue d cs v := by
  intro hv
  have hhyphen : ∀ {ds : List Char}, ¬ IsRun ('-' :: ds) := fun hrun =>
    absurd (hrun.digits '-' List.mem_cons_self) (by decide)
  rcases hv.cases_run with hname | ⟨ds', hcs', hdigits⟩
  · obtain ⟨c, hc⟩ := List.exists_mem_of_ne_nil ds h.ne_nil
    have hmem : c ∈ cs := by
      rcases hcs with rfl | rfl
      · exact hc
      · exact List.mem_cons_of_mem _ hc
    exact not_isPlain_toLower_of_isDigit (h.digits c hc) (hname.isPlain hd c hmem)
  · have hlt := h.lt_length
    have hle := hdigits.length_le
    rcases hcs with rfl | rfl <;> rcases hcs' with rfl | hcs'
    · omega
    · subst hcs'
      exact hhyphen h.toIsRun
    · exact hhyphen ⟨hdigits.ne_nil, hdigits.digits⟩
    · cases hcs'
      omega

/-- A token with a fault is not written for a value. -/
lemma TokenFault.not_isLastValue (hd : d.HasPlainNames) {cs : List Char} {e : ItemError} {v : ℤ}
    (h : TokenFault d cs e) : ¬ IsLastValue d cs v := by
  intro hv
  cases h with
  | unresolvable hname hrun hsigned =>
      rcases hv.cases_run with hn | ⟨ds, rfl | rfl, hdigits⟩
      · exact hname hn
      · exact hrun ⟨hdigits.ne_nil, hdigits.digits⟩
      · exact hsigned ds rfl ⟨hdigits.ne_nil, hdigits.digits⟩
  | tooLong hlong => exact hlong.not_isLastValue hd (Or.inl rfl) hv
  | tooLongSigned hlong => exact hlong.not_isLastValue hd (Or.inr rfl) hv

/-- **A token that cannot be resolved has a fault.** A token that is found among the names has none,
and any other token is read as a numeral. -/
theorem Token.resolve_eq_error_iff (hd : d.HasPlainNames) {cs : List Char} {e : ItemError} :
    resolve d.names 0 cs = .error e ↔ TokenFault d cs e := by
  cases hfind : d.names.bind fun t => t.find? (String.ofList (Text.lower cs)) with
  | some u =>
      have hok : resolve d.names 0 cs = .ok u := by simp [resolve, hfind]
      rw [hok]
      refine iff_of_false (by simp) fun h => ?_
      exact h.not_isLastValue hd ((resolve_eq_ok_iff hd).mp hok)
  | none =>
      have hread : resolve d.names 0 cs = readInt cs := by simp [resolve, hfind]
      constructor
      · intro h
        have hname : ¬ IsName d cs := by
          intro hname
          obtain ⟨v, hv⟩ := hname.exists_isLastValue
          rw [(resolve_eq_ok_iff hd).mpr hv] at h
          cases h
        rw [hread, readInt_eq_error_iff] at h
        rcases h with ⟨⟨hrun, hsigned⟩, rfl⟩ | ⟨ds, rfl | rfl, hlong, rfl⟩
        · exact .unresolvable hname hrun hsigned
        · exact .tooLong hlong
        · exact .tooLongSigned hlong
      · intro h
        rw [hread, readInt_eq_error_iff]
        cases h with
        | unresolvable _ hrun hsigned => exact Or.inl ⟨⟨hrun, hsigned⟩, rfl⟩
        | tooLong hlong => exact Or.inr ⟨cs, Or.inl rfl, hlong, rfl⟩
        | tooLongSigned hlong => exact Or.inr ⟨_, Or.inr rfl, hlong, rfl⟩

namespace Item

/-- The step of an item fails with its fault. -/
lemma step_eq_error_iff {σ : Span (List Char)} {ds : List Char} {e : ItemError} :
    step ⟨σ, some ds⟩ = .error e ↔ StepFault ds e := by
  simp only [step]
  by_cases hrun : IsRun ds
  · rw [if_pos (isRun_iff.mp hrun)]
    cases hn : Numeral.read ds with
    | error n =>
        obtain ⟨hlong, rfl⟩ := Numeral.read_eq_error_iff.mp hn
        rw [Except.error.injEq]
        constructor
        · rintro rfl
          exact .tooLong ⟨hrun, hlong⟩
        · intro h
          cases h with
          | noNumeral h => exact absurd hrun h
          | tooLong _ => rfl
          | zero hdigits _ =>
              have := hdigits.length_le
              omega
    | ok n =>
        obtain ⟨hlength, rfl⟩ := Numeral.read_eq_ok_iff.mp hn
        have hdigits : IsDigits ds := ⟨hrun.ne_nil, hrun.digits, hlength⟩
        have hfault : StepFault ds e ↔ Numeral.value ds = 0 ∧ .invalidStep = e := by
          constructor
          · intro h
            cases h with
            | noNumeral h => exact absurd hrun h
            | tooLong hlong =>
                have := hlong.lt_length
                have := hdigits.length_le
                omega
            | zero _ hzero => exact ⟨hzero, rfl⟩
          · rintro ⟨hzero, rfl⟩
            exact .zero hdigits hzero
        rw [hfault]
        cases hvalue : Numeral.value ds with
        | zero => simp
        | succ m => simp
  · rw [if_neg (isRun_iff.not.mp hrun), Except.error.injEq]
    constructor
    · rintro rfl
      exact .noNumeral hrun
    · intro h
      cases h with
      | noNumeral _ => rfl
      | tooLong hlong => exact absurd hlong.toIsRun hrun
      | zero hdigits _ => exact absurd ⟨hdigits.ne_nil, hdigits.digits⟩ hrun

end Item

/-! ### Spans and items -/

/-- A token of a span that was cut out of a text has a fault, or the tokens are written for values that
do not lie in the domain. -/
def Span.Fails (d : Domain) : Span (List Char) → ItemError → Prop
  | .all, _ => False
  | .one cs, e => TokenFault d cs e ∨
      ∃ v, IsLastValue d cs v ∧ ¬ d.Contains (d.normalize v) ∧ e = .outOfRange
  | .between cs ds, e => TokenFault d cs e ∨ ∃ v, IsLastValue d cs v ∧ (TokenFault d ds e ∨
      ∃ w, IsLastValue d ds w ∧ ¬ (d.Contains (d.normalize v) ∧ d.Contains (d.normalize w)) ∧
        e = .outOfRange)

/-- The cut at the first hyphen finds the fault of a span. -/
lemma spanFault_iff (hd : d.HasPlainNames) {cs : List Char} {e : ItemError} :
    SpanFault d cs e ↔ (Item.cutSpan cs).Fails d e := by
  have hstar : ∀ {v}, ¬ IsLastValue d ['*'] v := fun hv =>
    ((hv.isValue (by decide)).uncut hd).2.2 rfl
  constructor
  · intro h
    cases h with
    | one hcs hne hfault =>
        rw [Item.cutSpan_of_not_mem hcs hne]
        exact Or.inl hfault
    | oneOutside hcs hv hout =>
        have hne : cs ≠ ['*'] := by
          rintro rfl
          exact hstar hv
        rw [Item.cutSpan_of_not_mem hcs hne]
        exact Or.inr ⟨_, hv, hout, rfl⟩
    | first hcs hfault =>
        rw [Item.cutSpan_append hcs]
        exact Or.inl hfault
    | last hcs hv hfault =>
        rw [Item.cutSpan_append hcs]
        exact Or.inr ⟨_, hv, Or.inl hfault⟩
    | outside hcs hv hw hout =>
        rw [Item.cutSpan_append hcs]
        exact Or.inr ⟨_, hv, Or.inr ⟨_, hw, hout, rfl⟩⟩
  · rw [Item.cutSpan]
    by_cases hne : cs = ['*']
    · rw [if_pos hne]
      exact False.elim
    · rw [if_neg hne]
      rcases Text.cutAt_cases '-' cs with ⟨hcs, hcut⟩ | ⟨before, after, rfl, hbefore, hcut⟩
      · rw [hcut]
        rintro (hfault | ⟨v, hv, hout, rfl⟩)
        · exact .one hcs hne hfault
        · exact .oneOutside hcs hv hout
      · rw [hcut]
        rintro (hfault | ⟨v, hv, hfault | ⟨w, hw, hout, rfl⟩⟩)
        · exact .first hbefore hfault
        · exact .last hbefore hv hfault
        · exact .outside hbefore hv hw hout

/-- The cut at the first slash finds the fault of an item. -/
lemma itemFault_iff (hd : d.HasPlainNames) {cs : List Char} {e : ItemError} :
    ItemFault d cs e ↔ (Item.cut cs).step = .error e ∨
      ∃ n, (Item.cut cs).step = .ok n ∧ (Item.cut cs).span.Fails d e := by
  constructor
  · intro h
    cases h with
    | step hcs hfault =>
        rw [Item.cut, Text.cutAt_append hcs]
        exact Or.inl (Item.step_eq_error_iff.mpr hfault)
    | @span cs ss n _ hcs hstep hfault =>
        have hfails := (spanFault_iff hd).mp hfault
        cases ss with
        | nil =>
            rw [List.append_nil, Item.cut, Text.cutAt_of_not_mem hcs]
            exact Or.inr ⟨n, Item.step_none_eq_ok_iff.mpr hstep, hfails⟩
        | cons c ds =>
            have hc : c = '/' := by
              cases hstep
              rfl
            subst hc
            rw [Item.cut, Text.cutAt_append hcs]
            exact Or.inr ⟨n, Item.step_some_eq_ok_iff.mpr hstep, hfails⟩
  · rcases Text.cutAt_cases '/' cs with ⟨hcs, hcut⟩ | ⟨before, after, rfl, hbefore, hcut⟩
    · rw [Item.cut, hcut]
      rintro (hfault | ⟨n, hstep, hfails⟩)
      · cases hfault
      · have := ItemFault.span hcs (Item.step_none_eq_ok_iff.mp hstep) ((spanFault_iff hd).mpr hfails)
        rwa [List.append_nil] at this
    · rw [Item.cut, hcut]
      rintro (hfault | ⟨n, hstep, hfails⟩)
      · exact .step hbefore (Item.step_eq_error_iff.mp hfault)
      · exact .span hbefore (Item.step_some_eq_ok_iff.mp hstep) ((spanFault_iff hd).mpr hfails)

namespace Item

/-- The first token is resolved first. -/
lemma ends_eq_error_iff (hd : d.HasPlainNames) {as bs : List Char} {e : ItemError} :
    ends d as bs = .error e ↔ TokenFault d as e ∨ ∃ v, IsLastValue d as v ∧ TokenFault d bs e := by
  simp only [ends, Except.bind_eq_error_iff, Token.resolve_eq_error_iff hd,
    Token.resolve_eq_ok_iff hd]
  simp [pure, Except.pure]

lemma valuesBetween_eq_error_iff {n : ℕ} {v w : ℤ} {e : ItemError} :
    valuesBetween d n (v, w) = .error e ↔ ¬ (d.Contains v ∧ d.Contains w) ∧ e = .outOfRange := by
  rw [valuesBetween]
  split
  · next h => simp [h]
  · next h => rw [Except.error.injEq, eq_comm, and_iff_right h]

/-- The values of two tokens cannot be generated when one of them has a fault, or when they are written
for values outside the domain. -/
lemma between_eq_error_iff (hd : d.HasPlainNames) {n : ℕ} {as bs : List Char} {e : ItemError} :
    (ends d as bs >>= valuesBetween d n) = .error e ↔ (Span.between as bs).Fails d e := by
  simp only [Except.bind_eq_error_iff, ends_eq_error_iff hd, ends_eq_ok_iff hd]
  constructor
  · rintro ((hfault | ⟨v, hv, hfault⟩) | ⟨_, ⟨v, w, hv, hw, rfl⟩, hout⟩)
    · exact Or.inl hfault
    · exact Or.inr ⟨v, hv, Or.inl hfault⟩
    · exact Or.inr ⟨v, hv, Or.inr ⟨w, hw, valuesBetween_eq_error_iff.mp hout⟩⟩
  · rintro (hfault | ⟨v, hv, hfault | ⟨w, hw, hout⟩⟩)
    · exact Or.inl (Or.inl hfault)
    · exact Or.inl (Or.inr ⟨v, hv, hfault⟩)
    · exact Or.inr ⟨_, ⟨v, w, hv, hw, rfl⟩, valuesBetween_eq_error_iff.mpr hout⟩

/-- A lone token counts as both ends, and fails as one. -/
lemma fails_between_self (hd : d.HasPlainNames) {cs : List Char} {e : ItemError} :
    (Span.between cs cs).Fails d e ↔ (Span.one cs).Fails d e := by
  constructor
  · rintro (hfault | ⟨v, hv, hfault | ⟨w, hw, hout, rfl⟩⟩)
    · exact Or.inl hfault
    · exact Or.inl hfault
    · obtain rfl := hv.unique hd hw
      rw [and_self_iff] at hout
      exact Or.inr ⟨v, hv, hout, rfl⟩
  · rintro (hfault | ⟨v, hv, hout, rfl⟩)
    · exact Or.inl hfault
    · exact Or.inr ⟨v, hv, Or.inr ⟨v, hv, by rwa [and_self_iff], rfl⟩⟩

/-- The step is read before the span. -/
lemma values_eq_error_iff (hd : d.HasPlainNames) {i : Item} {e : ItemError} :
    i.values d = .error e ↔ i.step = .error e ∨ ∃ n, i.step = .ok n ∧ i.span.Fails d e := by
  rw [values, Except.bind_eq_error_iff]
  refine or_congr_right (exists_congr fun n => and_congr_right fun _ => ?_)
  cases hspan : i.span with
  | all => simp [Span.Fails, pure, Except.pure]
  | one cs => exact (between_eq_error_iff hd).trans (fails_between_self hd)
  | between as bs => exact between_eq_error_iff hd

/-- **An item that cannot be expanded has a first fault**, and is told of it. -/
theorem expand_eq_error_iff (hd : d.HasPlainNames) {cs : List Char} {f : ParseError} :
    expand d cs = .error f ↔ ∃ e, ItemFault d cs e ∧ f = e.within cs := by
  rw [expand, Except.mapError_eq_error_iff]
  refine exists_congr fun e => ?_
  rw [values_eq_error_iff hd, itemFault_iff hd, eq_comm (a := f)]

end Item

/-! ### Numerals that are too long -/

lemma TokenFault.long_lt_length {cs : List Char} {n : LongNumeral}
    (h : TokenFault d cs (.longNumeral n)) : 4300 < cs.length := by
  cases h with
  | tooLong hlong => exact hlong.lt_length
  | tooLongSigned hlong => exact Nat.lt_succ_of_lt hlong.lt_length

lemma SpanFault.long_lt_length {cs : List Char} {n : LongNumeral}
    (h : SpanFault d cs (.longNumeral n)) : 4300 < cs.length := by
  cases h with
  | one _ _ hfault => exact hfault.long_lt_length
  | first _ hfault | last _ _ hfault =>
      have := hfault.long_lt_length
      rw [List.length_append, List.length_cons]
      omega

/-- A numeral that is too long makes its item too long. -/
lemma ItemFault.long_lt_length {cs : List Char} {n : LongNumeral}
    (h : ItemFault d cs (.longNumeral n)) : 4300 < cs.length := by
  cases h with
  | step _ hfault =>
      cases hfault with
      | tooLong hlong =>
          have := hlong.lt_length
          rw [List.length_append, List.length_cons]
          omega
  | span _ _ hfault =>
      have := hfault.long_lt_length
      rw [List.length_append]
      omega

/-! ### Fields -/

namespace Field

/-- The item is the first one of its field with a fault: the items before it are `items`, and they can be
read. -/
def FirstFault (d : Domain) (cs : List Char) (items : List (List Char)) (item : List Char)
    (e : ItemError) : Prop :=
  ∃ after, [','].intercalate (items ++ item :: after) = cs ∧ (∀ w ∈ items ++ item :: after, ',' ∉ w) ∧
    (∀ w ∈ items, ∃ i, IsItem d w i) ∧ ItemFault d item e

/-- **The first item with a fault decides for its field**, whatever comes after it. -/
theorem parse_eq_error_iff (hd : d.HasPlainNames) {cs : List Char} (hcs : Text.IsWord cs)
    {f : ParseError} :
    parse d cs = .error f ↔ ∃ before item after e,
      [','].intercalate (before ++ item :: after) = cs ∧
        (∀ w ∈ before ++ item :: after, ',' ∉ w) ∧ (∀ w ∈ before, ∃ i, IsItem d w i) ∧
          ItemFault d item e ∧ f = e.within item := by
  rw [parse_of_isWord hcs, expandAll, Except.map_eq_error_iff, Except.mapM_eq_error_iff]
  simp only [Item.exists_expand_iff hd, Item.expand_eq_error_iff hd, Text.pieces_eq_iff]
  constructor
  · rintro ⟨before, item, after, ⟨-, hcomma, hjoin⟩, hbefore, e, hfault, rfl⟩
    exact ⟨before, item, after, e, hjoin, hcomma, hbefore, hfault, rfl⟩
  · rintro ⟨before, item, after, e, hjoin, hcomma, hbefore, hfault, rfl⟩
    exact ⟨before, item, after, ⟨by simp, hcomma, hjoin⟩, hbefore, e, hfault, rfl⟩

end Field

end CronPreview
