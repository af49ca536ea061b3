/-
A star beside the range from end to end of its domain.

* `Domain.rangeText`: the domain written as a range, from its first value to its last one;
* `Domain.IsUnnamed`, `Domain.HasWrittenBounds`: domains whose bounds are written as numerals that stand for them,
  like those of the five fields (`Domain.hasWrittenBounds_of_mem_all`);
* `Item.sameValues_star`: a star and this range have the same values or the same fault, whatever their step;
* `Item.star_agrees_with_range`: what this means for items and for a field that is a lone star.
-/
import CronPreview.Failure
import CronPreview.Proofs.Field.Lists
import CronPreview.Proofs.Field.Order
import CronPreview.Proofs.Field.Spelling

namespace CronPreview

open Except (LiftRel)

/-! ### Bounds -/

/-- A number that is not negative is written as a numeral that stands for it. -/
lemma isValue_renderInt (d : Domain) {v : ℤ} (hv : 0 ≤ v)
    (hlength : (Numeral.renderInt v).length ≤ 4300) : IsValue d (Numeral.renderInt v) v := by
  obtain ⟨n, rfl⟩ := Int.eq_ofNat_of_zero_le hv
  have hdigits : IsDigits (Numeral.render n) :=
    ⟨Nat.toDigits_ne_nil, fun _ => Numeral.isDigit_of_mem_render, hlength⟩
  have hvalue := IsValue.numeral (d := d) hdigits
  rwa [Numeral.value_render] at hvalue

namespace Domain

/-- The domain written as a range: its bounds with a hyphen between them. -/
def rangeText (d : Domain) : List Char :=
  Numeral.renderInt d.min ++ '-' :: Numeral.renderInt d.max

/-- The domain has no names, and its bounds are natural numbers with numerals that can be read. -/
structure IsUnnamed (d : Domain) : Prop where
  names_eq : d.names = none
  min_nonneg : 0 ≤ d.min
  min_le_max : d.min ≤ d.max
  length_min : (Numeral.renderInt d.min).length ≤ 4300
  length_max : (Numeral.renderInt d.max).length ≤ 4300

/-- The bounds of the domain are written as numerals that stand for them. -/
structure HasWrittenBounds (d : Domain) : Prop where
  plain : d.HasPlainNames
  min_le_max : d.min ≤ d.max
  isValue_min : IsValue d (Numeral.renderInt d.min) d.min
  isValue_max : IsValue d (Numeral.renderInt d.max) d.max
  normalize_min : d.normalize d.min = d.min
  normalize_max : d.normalize d.max = d.max

variable {d : Domain}

lemma IsUnnamed.hasWrittenBounds (h : d.IsUnnamed) : d.HasWrittenBounds where
  plain := by
    intro t ht
    rw [h.names_eq] at ht
    cases ht
  min_le_max := h.min_le_max
  isValue_min := isValue_renderInt d h.min_nonneg h.length_min
  isValue_max := isValue_renderInt d (h.min_nonneg.trans h.min_le_max) h.length_max
  normalize_min := normalize_of_names_eq_none h.names_eq d.min
  normalize_max := normalize_of_names_eq_none h.names_eq d.max

lemma hasWrittenBounds_of_mem_all (h : d ∈ Domain.all) : d.HasWrittenBounds := by
  have hbounds : ∀ d ∈ Domain.all, (0 ≤ d.min ∧ d.min ≤ d.max) ∧
      ((Numeral.renderInt d.min).length ≤ 4300 ∧ (Numeral.renderInt d.max).length ≤ 4300) ∧
        d.normalize d.min = d.min ∧ d.normalize d.max = d.max := by decide
  obtain ⟨⟨hmin, hle⟩, ⟨hlength, hlength'⟩, hnormalize, hnormalize'⟩ := hbounds d h
  exact
    { plain := hasPlainNames_of_mem_all h
      min_le_max := hle
      isValue_min := isValue_renderInt d hmin hlength
      isValue_max := isValue_renderInt d (hmin.trans hle) hlength'
      normalize_min := hnormalize
      normalize_max := hnormalize' }

end Domain

namespace Item

variable {d : Domain} {u : List Char}

/-! ### Stars -/

/-- The two ends of the range are the bounds of the domain. -/
lemma ends_bounds (hd : d.HasWrittenBounds) :
    ends d (Numeral.renderInt d.min) (Numeral.renderInt d.max) = .ok (d.min, d.max) := by
  have hmin := (Token.resolve_eq_ok_iff hd.plain).mpr (.value hd.isValue_min)
  have hmax := (Token.resolve_eq_ok_iff hd.plain).mpr (.value hd.isValue_max)
  exact ends_eq_pair_iff.mpr ⟨_, _, hmin, hmax, hd.normalize_min.symm, hd.normalize_max.symm⟩

/-- The range is cut into the two bounds, and a step that follows is cut off. -/
lemma cut_rangeText (hd : d.HasWrittenBounds) (hu : ∀ c ∈ u.head?, c = '/') :
    cut (d.rangeText ++ u) =
      ⟨.between (Numeral.renderInt d.min) (Numeral.renderInt d.max), (Text.cutAt '/' u).2⟩ := by
  obtain ⟨hhyphen, hslash, -⟩ := hd.isValue_min.uncut hd.plain
  obtain ⟨-, hslash', -⟩ := hd.isValue_max.uncut hd.plain
  have hnot : '/' ∉ d.rangeText := by
    rw [Domain.rangeText, List.mem_append, List.mem_cons]
    rintro (hmem | hmem | hmem)
    · exact hslash hmem
    · cases hmem
    · exact hslash' hmem
  rw [cut_append_step hnot hu, Domain.rangeText, cutSpan_append hhyphen]

/-- **A star and the range from end to end have the same values**, or the same fault. Either is read after the
step that follows it. -/
theorem sameValues_star (hd : d.HasWrittenBounds) (hu : ∀ c ∈ u.head?, c = '/') :
    SameValues d ('*' :: u) (d.rangeText ++ u) := by
  have hstar : cut (['*'] ++ u) = ⟨.all, (Text.cutAt '/' u).2⟩ := cut_append_step (by decide) hu
  rw [SameValues, ← List.singleton_append, hstar, cut_rangeText hd hu]
  generalize (Text.cutAt '/' u).2 = t
  -- the step does not depend on the span that it follows
  have hstep : ∀ σ : Span (List Char), step ⟨σ, t⟩ = step ⟨.all, t⟩ := fun _ => rfl
  rw [values, values, hstep (.between _ _)]
  cases hn : step ⟨.all, t⟩ with
  | error e => rfl
  | ok n =>
      have hin : d.Contains d.min ∧ d.Contains d.max :=
        ⟨⟨le_refl _, hd.min_le_max⟩, hd.min_le_max, le_refl _⟩
      calc Except.ok (strided d.min d.max n)
          = Except.ok (ranged d d.min d.max n) := by
            rw [strided_eq_ranged (one_le_of_step hn) hd.min_le_max]
        _ = valuesBetween d n (d.min, d.max) := (if_pos hin).symm
        _ = ends d (Numeral.renderInt d.min) (Numeral.renderInt d.max) >>= valuesBetween d n := by
            rw [ends_bounds hd]
            rfl

/-- The kind of an error does not depend on the item of which it is told. -/
lemma kind_within (e : ItemError) (w w' : List Char) :
    (Failure.parse (e.within w)).kind? = (Failure.parse (e.within w')).kind? := by
  cases e <;> rfl

/-- Two items have the same fault. Each error is told of its own item, under the same kind. -/
structure SameFault (d : Domain) (w w' : List Char) (f f' : ParseError) : Prop where
  kind : (Failure.parse f).kind? = (Failure.parse f').kind?
  fault : ∃ e, ItemFault d w e ∧ ItemFault d w' e ∧ f = e.within w ∧ f' = e.within w'

/-- **A star stands for the range from end to end of its domain**, in the five domains of an expression and in every
domain without names whose bounds are natural numbers. With any text behind them that begins with a slash, or with
none, both have the same list of values, or the same fault; a numeral that is too long is one. A field that is a lone
star has the set of the values of the range. -/
theorem star_agrees_with_range (hd : d ∈ Domain.all ∨ d.IsUnnamed) :
    (∀ u : List Char, (∀ c ∈ u.head?, c = '/') →
      LiftRel (SameFault d ('*' :: u) (d.rangeText ++ u)) Eq (expand d ('*' :: u))
        (expand d (d.rangeText ++ u))) ∧
    ∃ l, expand d d.rangeText = .ok l ∧ Field.parse d ['*'] = .ok (.ofList l) := by
  have hbounds : d.HasWrittenBounds :=
    hd.elim Domain.hasWrittenBounds_of_mem_all Domain.IsUnnamed.hasWrittenBounds
  have hitems : ∀ u : List Char, (∀ c ∈ u.head?, c = '/') →
      LiftRel (SameFault d ('*' :: u) (d.rangeText ++ u)) Eq (expand d ('*' :: u))
        (expand d (d.rangeText ++ u)) := by
    intro u hu
    refine ((sameValues_star hbounds hu).expand_related hbounds.plain).imp ?_ fun _ _ => id
    rintro f f' ⟨e, hfault, hfault', rfl, rfl⟩
    exact ⟨kind_within e _ _, e, hfault, hfault', rfl, rfl⟩
  have hparse : Field.parse d ['*'] = (expand d ['*']).map .ofList := by
    rw [Field.parse_of_not_blank ⟨'*', List.mem_cons_self, rfl⟩]
    exact Field.expandAll_singleton ['*']
  have hstar : expand d ['*'] = .ok (strided d.min d.max 1) := rfl
  obtain ⟨l, hl, rfl⟩ := (hitems [] (by simp)).exists_ok hstar
  rw [List.append_nil] at hl
  rw [hstar] at hparse
  exact ⟨hitems, _, hl, hparse⟩

/-- The floors of a house from the fifth one on. -/
def floors : Domain where
  name := "floor"
  min := 5
  max := 12

/-- Every third floor, and a month with a step that is no positive numeral. -/
theorem star_agrees_with_range_floors :
    expand floors "*/3".toList = .ok [5, 8, 11] ∧ expand floors "5-12/3".toList = .ok [5, 8, 11] ∧
      ∃ f f', expand .month "*/0".toList = .error f ∧ expand .month "1-12/0".toList = .error f' ∧
        SameFault .month "*/0".toList "1-12/0".toList f f' := by
  have hfloors : floors.IsUnnamed := ⟨rfl, by decide, by decide, by decide, by decide⟩
  have hstar : expand floors "*/3".toList = .ok [5, 8, 11] := rfl
  have hzero : expand .month "*/0".toList = .error (.defect (.invalidStep "*/0")) := rfl
  have hfloor := (star_agrees_with_range (Or.inr hfloors)).1 "/3".toList (by simp)
  have hmonth := (star_agrees_with_range (d := .month) (Or.inl (by decide))).1 "/0".toList (by simp)
  obtain ⟨l, hl, rfl⟩ := hfloor.exists_ok hstar
  obtain ⟨f', hf', hfault⟩ := hmonth.exists_error hzero
  exact ⟨hstar, hl, _, f', hzero, hf', hfault⟩

end Item

end CronPreview
