/-
How values are spelled.

* `Domain.Same`, `Token.SameValue`: two tokens for the same value, or for the Sundays at the two ends of a week;
* `IsValue.sameValue`, `IsValue.zeros_append`: such are the names of a value in any letter case, and its numerals
  with any number of leading zeros;
* `Item.Respelled`: two items that spell one of their values differently;
* `Item.SameValues`, `Item.Respelled.sameValues`: they have the same values, or the same fault;
* `Field.parse_related`: fields whose items have the same values are read alike, and if they cannot be read, the
  items at the same place are to blame, for the same fault.
-/
import CronPreview.Proofs.Field.Faults

namespace CronPreview

variable {d : Domain} {cs ds : List Char}

/-! ### Tokens -/

/-- The two values are the same, or they are the first and the last Sunday of a week. -/
def Domain.Same (d : Domain) (v w : ℤ) : Prop :=
  v = w ∨ d = .dayOfWeek ∧ (v = 0 ∧ w = 7 ∨ v = 7 ∧ w = 0)

lemma Domain.Same.normalize_eq {v w : ℤ} (h : d.Same v w) : d.normalize v = d.normalize w := by
  rcases h with rfl | ⟨rfl, ⟨rfl, rfl⟩ | ⟨rfl, rfl⟩⟩
  · rfl
  · rfl
  · rfl

namespace Token

/-- The two tokens are resolved to the same value, or to the two Sundays of a week. -/
def SameValue (d : Domain) (cs ds : List Char) : Prop :=
  ∃ v w, resolve d.names 0 cs = .ok v ∧ resolve d.names 0 ds = .ok w ∧ d.Same v w

lemma SameValue.map_normalize (h : SameValue d cs ds) :
    (resolve d.names 0 cs).map d.normalize = (resolve d.names 0 ds).map d.normalize := by
  obtain ⟨v, w, hv, hw, hsame⟩ := h
  rw [hv, hw]
  exact congrArg Except.ok hsame.normalize_eq

lemma SameValue.symm (h : SameValue d cs ds) : SameValue d ds cs := by
  obtain ⟨v, w, hv, hw, hsame⟩ := h
  refine ⟨w, v, hw, hv, ?_⟩
  rcases hsame with rfl | ⟨hd, hends⟩
  · exact Or.inl rfl
  · exact Or.inr ⟨hd, hends.symm.imp And.symm And.symm⟩

lemma SameValue.exists_isLastValue (hd : d.HasPlainNames) (h : SameValue d cs ds) :
    ∃ v, IsLastValue d ds v := by
  obtain ⟨-, w, -, hw, -⟩ := h
  exact ⟨w, (resolve_eq_ok_iff hd).mp hw⟩

end Token

/-- Whatever is written for one value, as a name or as a numeral, is a spelling of it. -/
lemma IsValue.sameValue (hd : d.HasPlainNames) {v w : ℤ} (hv : IsValue d cs v) (hw : IsValue d ds w)
    (h : d.Same v w) : Token.SameValue d cs ds :=
  ⟨v, w, (Token.resolve_eq_ok_iff hd).mpr (.value hv), (Token.resolve_eq_ok_iff hd).mpr (.value hw), h⟩

/-- A numeral may have leading zeros, if it does not become too long. -/
lemma IsValue.zeros_append (d : Domain) {k : ℕ} (h : IsDigits ds) (hlength : k + ds.length ≤ 4300) :
    IsValue d (List.replicate k '0' ++ ds) (Numeral.value ds) := by
  rw [← Numeral.value_replicate_append k ds]
  refine .numeral ⟨List.append_ne_nil_of_right_ne_nil _ h.ne_nil, fun c hc => ?_, by simpa using hlength⟩
  rcases List.mem_append.mp hc with hc | hc
  · rw [List.eq_of_mem_replicate hc]
    decide
  · exact h.digits c hc

lemma isDigits_singleton {c : Char} (h : c.isDigit = true) : IsDigits [c] :=
  ⟨List.cons_ne_nil _ _, List.forall_mem_singleton.mpr h, by simp⟩

/-- Sunday is written as 0, as 7 and by its name. -/
lemma sameValue_of_sunday {s t : String} (hs : s ∈ ["0", "7", "sun"]) (ht : t ∈ ["0", "7", "sun"]) :
    Token.SameValue .dayOfWeek s.toList t.toList := by
  have hsunday : ∀ s ∈ ["0", "7", "sun"], ∃ v, IsValue .dayOfWeek s.toList v ∧ (v = 0 ∨ v = 7) := by
    simp only [List.forall_mem_cons]
    exact ⟨⟨0, .numeral (isDigits_singleton (c := '0') rfl), Or.inl rfl⟩,
      ⟨7, .numeral (isDigits_singleton (c := '7') rfl), Or.inr rfl⟩,
      ⟨0, .name (w := "sun") rfl rfl rfl, Or.inl rfl⟩, by simp⟩
  obtain ⟨v, hv, hv'⟩ := hsunday s hs
  obtain ⟨w, hw, hw'⟩ := hsunday t ht
  refine hv.sameValue (Domain.hasPlainNames_of_mem_all (by simp [Domain.all])) hw ?_
  rcases hv' with rfl | rfl <;> rcases hw' with rfl | rfl <;> simp [Domain.Same]

/-- A value that does not begin with a hyphen has no sign. -/
lemma IsLastValue.isValue_of_head {v : ℤ} (h : IsLastValue d cs v) (hcs : cs.head? ≠ some '-') :
    IsValue d cs v := by
  cases h with
  | value hv => exact hv
  | signed _ => exact absurd rfl hcs

namespace Item

variable {w w' : List Char}

/-! ### Items -/

/-- The two items spell one of their values in two ways: a lone value, or the first or the last value of a range.
A step may follow. Only the last value may begin with a hyphen. -/
inductive Respelled (d : Domain) : List Char → List Char → Prop
  | lone {cs ds step : List Char} : Token.SameValue d cs ds → cs.head? ≠ some '-' →
      ds.head? ≠ some '-' → (∀ c ∈ step.head?, c = '/') → Respelled d (cs ++ step) (ds ++ step)
  | first {cs ds rest : List Char} : Token.SameValue d cs ds → cs.head? ≠ some '-' →
      ds.head? ≠ some '-' → Respelled d (cs ++ '-' :: rest) (ds ++ '-' :: rest)
  | last {first cs ds step : List Char} : '-' ∉ first → '/' ∉ first → Token.SameValue d cs ds →
      (∀ c ∈ step.head?, c = '/') →
        Respelled d (first ++ '-' :: (cs ++ step)) (first ++ '-' :: (ds ++ step))

/-- The two ends of a range are the values of its tokens, with the days of the week counted from Sunday. -/
lemma ends_eq (d : Domain) (as bs : List Char) :
    ends d as bs = do
      let v ← (Token.resolve d.names 0 as).map d.normalize
      let w ← (Token.resolve d.names 0 bs).map d.normalize
      return (v, w) := by
  rw [ends]
  cases Token.resolve d.names 0 as <;> cases Token.resolve d.names 0 bs <;> rfl

/-- A lone value is the range from it to itself. -/
lemma values_one (cs : List Char) (t : Option (List Char)) :
    values d ⟨.one cs, t⟩ = values d ⟨.between cs cs, t⟩ :=
  rfl

/-- Only the values of the two tokens of a range count. -/
lemma values_between_congr {as as' bs bs' : List Char} (t : Option (List Char))
    (hfirst : (Token.resolve d.names 0 as).map d.normalize =
      (Token.resolve d.names 0 as').map d.normalize)
    (hlast : (Token.resolve d.names 0 bs).map d.normalize =
      (Token.resolve d.names 0 bs').map d.normalize) :
    values d ⟨.between as bs, t⟩ = values d ⟨.between as' bs', t⟩ := by
  have hends : ends d as bs = ends d as' bs' := by
    rw [ends_eq, ends_eq, hfirst, hlast]
  simp only [values, step, hends]

/-- The two items have the same values, or the same fault. -/
def SameValues (d : Domain) (w w' : List Char) : Prop :=
  (cut w).values d = (cut w').values d

lemma SameValues.refl (d : Domain) (w : List Char) : SameValues d w w := Eq.refl _

/-- **The spelling of a value makes no difference** to the values of an item, nor to its fault. -/
theorem Respelled.sameValues (hd : d.HasPlainNames) (h : Respelled d w w') : SameValues d w w' := by
  rw [SameValues]
  cases h with
  | @lone cs ds step hsame hcs hds hstep =>
      obtain ⟨v, hv⟩ := hsame.symm.exists_isLastValue hd
      obtain ⟨u, hu⟩ := hsame.exists_isLastValue hd
      obtain ⟨hhyphen, hslash, hstar⟩ := (hv.isValue_of_head hcs).uncut hd
      obtain ⟨hhyphen', hslash', hstar'⟩ := (hu.isValue_of_head hds).uncut hd
      rw [cut_append_step hslash hstep, cut_append_step hslash' hstep,
        cutSpan_of_not_mem hhyphen hstar, cutSpan_of_not_mem hhyphen' hstar', values_one, values_one]
      exact values_between_congr _ hsame.map_normalize hsame.map_normalize
  | @first cs ds rest hsame hcs hds =>
      obtain ⟨v, hv⟩ := hsame.symm.exists_isLastValue hd
      obtain ⟨u, hu⟩ := hsame.exists_isLastValue hd
      obtain ⟨hhyphen, hslash, -⟩ := (hv.isValue_of_head hcs).uncut hd
      obtain ⟨hhyphen', hslash', -⟩ := (hu.isValue_of_head hds).uncut hd
      have hrest : (Text.cutAt '/' ('-' :: rest)).1 = '-' :: (Text.cutAt '/' rest).1 := rfl
      rw [cut_append hslash, cut_append hslash', hrest, cutSpan_append hhyphen, cutSpan_append hhyphen']
      exact values_between_congr _ hsame.map_normalize rfl
  | @last first cs ds step hhyphen hslash hsame hstep =>
      have hrange : ∀ {cs : List Char}, (∃ v, IsLastValue d cs v) →
          cut (first ++ '-' :: (cs ++ step)) = ⟨.between first cs, (Text.cutAt '/' step).2⟩ := by
        rintro cs ⟨v, hv⟩
        have hnot : '/' ∉ first ++ '-' :: cs := by
          intro hmem
          rcases List.mem_append.mp hmem with hmem | hmem
          · exact hslash hmem
          · exact (hv.spanChars hd '/' (by simpa using hmem)).1 rfl
        have hcut := cut_append_step hnot hstep
        rwa [cutSpan_append hhyphen, List.append_assoc] at hcut
      rw [hrange (hsame.symm.exists_isLastValue hd), hrange (hsame.exists_isLastValue hd)]
      exact values_between_congr _ rfl hsame.map_normalize

lemma Respelled.symm (h : Respelled d w w') : Respelled d w' w := by
  cases h with
  | lone hsame hcs hds hstep => exact .lone hsame.symm hds hcs hstep
  | first hsame hcs hds => exact .first hsame.symm hds hcs
  | last hhyphen hslash hsame hstep => exact .last hhyphen hslash hsame.symm hstep

/-- A spelling brings neither a comma nor a blank into an item. -/
lemma Respelled.itemChars (hd : d.HasPlainNames) (h : Respelled d w w') (hw : ∀ c ∈ w, IsItemChar c) :
    w' ≠ [] ∧ ∀ c ∈ w', IsItemChar c := by
  have htoken : ∀ {cs ds : List Char}, Token.SameValue d cs ds → ds ≠ [] ∧ ∀ c ∈ ds, IsItemChar c := by
    intro cs ds hsame
    obtain ⟨v, hv⟩ := hsame.exists_isLastValue hd
    refine ⟨?_, fun c hc => (hv.spanChars hd c hc).2⟩
    cases hv with
    | value hv => exact (hv.tokenChars hd).1
    | signed _ => exact List.cons_ne_nil _ _
  cases h with
  | lone hsame _ _ _ | first hsame _ _ =>
      obtain ⟨hne, hchars⟩ := htoken hsame
      rw [List.forall_mem_append] at hw ⊢
      exact ⟨List.append_ne_nil_of_left_ne_nil hne _, hchars, hw.2⟩
  | last _ _ hsame _ =>
      obtain ⟨-, hchars⟩ := htoken hsame
      rw [List.forall_mem_append, List.forall_mem_cons, List.forall_mem_append] at hw ⊢
      obtain ⟨hfirst, hhyphen, -, hstep⟩ := hw
      exact ⟨by simp, hfirst, hhyphen, hchars, hstep⟩

/-- Items with the same values are expanded alike, or they are told of the same fault. -/
lemma SameValues.expand_related (hd : d.HasPlainNames) (h : SameValues d w w') :
    Except.LiftRel
      (fun f f' => ∃ e, ItemFault d w e ∧ ItemFault d w' e ∧ f = e.within w ∧ f' = e.within w')
      Eq (expand d w) (expand d w') := by
  have hfault : ∀ {w e}, (cut w).values d = .error e → ItemFault d w e := fun he =>
    (itemFault_iff hd).mpr ((values_eq_error_iff hd).mp he)
  rw [SameValues] at h
  rw [expand, expand, ← h]
  cases hvalues : (cut w).values d with
  | ok l => exact .ok rfl
  | error e => exact .error ⟨e, hfault hvalues, hfault (h ▸ hvalues), rfl, rfl⟩

end Item

namespace Field

/-! ### Fields -/

/-- The items at the same place of two fields are to blame, for the same fault. -/
def SameFault (d : Domain) (f f' : List Char) (e e' : ParseError) : Prop :=
  ∃ items items' item item' fault, FirstFault d f items item fault ∧
    FirstFault d f' items' item' fault ∧ items.length = items'.length ∧
      e = fault.within item ∧ e' = fault.within item'

/-- **Fields whose items have the same values are read alike**: they have the same set, or the same fault. -/
theorem parse_related (hd : d.HasPlainNames) {f f' : List Char} (hf : Text.IsWord f)
    (hf' : Text.IsWord f')
    (h : List.Forall₂ (Item.SameValues d) (Text.pieces (· == ',') f) (Text.pieces (· == ',') f')) :
    Except.LiftRel (SameFault d f f') Eq (parse d f) (parse d f') := by
  have hitems := Except.LiftRel.mapM (h.imp fun w w' => Item.SameValues.expand_related hd)
  rw [parse_of_isWord hf, parse_of_isWord hf', expandAll, expandAll, Except.LiftRel.map_iff]
  refine hitems.imp ?_ fun ls ls' hls => ?_
  · rintro e e' ⟨items, item, after, items', item', after', hpieces, hpieces', hlength, hbefore, hbefore',
      fault, hfault, hfault', rfl, rfl⟩
    obtain ⟨-, hcomma, hjoin⟩ := Text.pieces_eq_iff.mp hpieces
    obtain ⟨-, hcomma', hjoin'⟩ := Text.pieces_eq_iff.mp hpieces'
    simp only [Item.exists_expand_iff hd] at hbefore hbefore'
    exact ⟨items, items', item, item', fault, ⟨after, hjoin, hcomma, hbefore, hfault⟩,
      ⟨after', hjoin', hcomma', hbefore', hfault'⟩, hlength, rfl, rfl⟩
  · rw [List.forall₂_eq_eq_eq] at hls
    rw [hls]

end Field

end CronPreview
