/-
Outcomes of computations that may fail.

* `Except.map_eq_ok_iff` and its neighbours: where an outcome comes from when it went through a
  function, through a translation of errors, or through two steps one after the other;
* `Except.mapM_eq_ok_iff`, `Except.mapM_eq_error_iff`: a list goes through a computation when each of
  its members does, and it fails with the first member that does not;
* `Except.exists_mapM_iff`, `Except.mem_iff_of_mapM`: the same without regard to the order of the members;
* `Except.LiftRel`: two outcomes that are related in their results or in their errors, which steps and
  translations keep;
* `Except.LiftRel.mapM`: two lists of related computations go through, or they fail at the same place.
-/
import Mathlib.Tactic

namespace Except

variable {ε ε' α β : Type}

@[simp] lemma map_eq_ok_iff {x : Except ε α} {f : α → β} {b : β} :
    x.map f = .ok b ↔ ∃ a, x = .ok a ∧ f a = b := by
  cases x <;> simp [Except.map]

@[simp] lemma map_eq_error_iff {x : Except ε α} {f : α → β} {e : ε} :
    x.map f = .error e ↔ x = .error e := by
  cases x <;> simp [Except.map]

@[simp] lemma mapError_eq_ok_iff {x : Except ε α} {f : ε → ε'} {a : α} :
    x.mapError f = .ok a ↔ x = .ok a := by
  cases x <;> simp [Except.mapError]

@[simp] lemma mapError_eq_error_iff {x : Except ε α} {f : ε → ε'} {e : ε'} :
    x.mapError f = .error e ↔ ∃ d, x = .error d ∧ f d = e := by
  cases x <;> simp [Except.mapError]

@[simp] lemma bind_eq_ok_iff {x : Except ε α} {f : α → Except ε β} {b : β} :
    x >>= f = .ok b ↔ ∃ a, x = .ok a ∧ f a = .ok b := by
  cases x <;> simp [Bind.bind, Except.bind]

lemma bind_eq_error_iff {x : Except ε α} {f : α → Except ε β} {e : ε} :
    x >>= f = .error e ↔ x = .error e ∨ ∃ a, x = .ok a ∧ f a = .error e := by
  cases x <;> simp [Bind.bind, Except.bind]

lemma mapM_eq_ok_iff {f : α → Except ε β} {as : List α} {bs : List β} :
    as.mapM f = .ok bs ↔ List.Forall₂ (fun a b => f a = .ok b) as bs := by
  induction as generalizing bs with
  | nil => cases bs <;> simp [pure, Except.pure]
  | cons a as ih =>
      rw [List.mapM_cons, bind_eq_ok_iff, List.forall₂_cons_left_iff]
      simp only [bind_eq_ok_iff, ih]
      constructor
      · rintro ⟨b, hb, bs', hbs, h⟩
        cases h
        exact ⟨b, bs', hb, hbs, rfl⟩
      · rintro ⟨b, bs', hb, hbs, rfl⟩
        exact ⟨b, hb, bs', hbs, rfl⟩

/-- A list goes through when each of its members does. -/
lemma exists_mapM_iff {f : α → Except ε β} {as : List α} :
    (∃ bs, as.mapM f = .ok bs) ↔ ∀ a ∈ as, ∃ b, f a = .ok b := by
  simp only [mapM_eq_ok_iff]
  induction as with
  | nil => simp
  | cons a as ih =>
      rw [List.forall_mem_cons, ← ih]
      constructor
      · rintro ⟨_, _ | ⟨hb, hbs⟩⟩
        exact ⟨⟨_, hb⟩, _, hbs⟩
      · rintro ⟨⟨b, hb⟩, bs, hbs⟩
        exact ⟨b :: bs, .cons hb hbs⟩

/-- What comes of a list is what comes of its members. -/
lemma mem_iff_of_mapM {f : α → Except ε β} {as : List α} {bs : List β} (h : as.mapM f = .ok bs)
    {b : β} : b ∈ bs ↔ ∃ a ∈ as, f a = .ok b := by
  induction mapM_eq_ok_iff.mp h with
  | nil => simp
  | cons ha hrest ih =>
      rw [List.mem_cons, ih (mapM_eq_ok_iff.mpr hrest), List.exists_mem_cons_iff, ha, Except.ok.injEq,
        eq_comm]

/-- The first member that does not go through decides, whatever comes after it. -/
lemma mapM_eq_error_iff {f : α → Except ε β} {as : List α} {e : ε} :
    as.mapM f = .error e ↔ ∃ before a after, as = before ++ a :: after ∧
      (∀ b ∈ before, ∃ c, f b = .ok c) ∧ f a = .error e := by
  induction as with
  | nil => simp [pure, Except.pure]
  | cons x as ih =>
      rw [List.mapM_cons, bind_eq_error_iff]
      constructor
      · rintro (hx | ⟨y, hx, h⟩)
        · exact ⟨[], x, as, rfl, by simp, hx⟩
        · have hrest : as.mapM f = .error e := by
            rcases bind_eq_error_iff.mp h with h | ⟨ys, -, h⟩
            · exact h
            · cases h
          obtain ⟨before, a, after, rfl, hbefore, ha⟩ := ih.mp hrest
          exact ⟨x :: before, a, after, rfl, List.forall_mem_cons.mpr ⟨⟨y, hx⟩, hbefore⟩, ha⟩
      · rintro ⟨before, a, after, heq, hbefore, ha⟩
        cases before with
        | nil =>
            obtain ⟨rfl, rfl⟩ := List.cons.inj heq
            exact Or.inl ha
        | cons b before =>
            obtain ⟨rfl, rfl⟩ := List.cons.inj heq
            obtain ⟨⟨y, hx⟩, hbefore⟩ := List.forall_mem_cons.mp hbefore
            have hrest := ih.mpr ⟨before, a, after, rfl, hbefore, ha⟩
            exact Or.inr ⟨y, hx, bind_eq_error_iff.mpr (Or.inl hrest)⟩

/-! ### Related outcomes -/

/-- Two outcomes are related: both are results that `S` relates, or both are errors that `R` relates. -/
inductive LiftRel {ε' β : Type} (R : ε → ε' → Prop) (S : α → β → Prop) : Except ε α → Except ε' β → Prop
  | ok {a : α} {b : β} : S a b → LiftRel R S (.ok a) (.ok b)
  | error {e : ε} {e' : ε'} : R e e' → LiftRel R S (.error e) (.error e')

namespace LiftRel

variable {R : ε → ε → Prop} {S : α → α → Prop} {x y : Except ε α}

/-- A result is related to a result. -/
lemma exists_ok {a : α} (h : LiftRel R S x y) (hx : x = .ok a) : ∃ b, y = .ok b ∧ S a b := by
  cases h with
  | ok hab =>
      cases hx
      exact ⟨_, rfl, hab⟩
  | error _ => cases hx

/-- An error is related to an error. -/
lemma exists_error {e : ε} (h : LiftRel R S x y) (hx : x = .error e) : ∃ e', y = .error e' ∧ R e e' := by
  cases h with
  | ok _ => cases hx
  | error he =>
      cases hx
      exact ⟨_, rfl, he⟩

/-- Related outcomes go on to related outcomes. -/
lemma bind {T : β → β → Prop} {f g : α → Except ε β} (h : LiftRel R S x y)
    (hfg : ∀ a b, S a b → LiftRel R T (f a) (g b)) : LiftRel R T (x >>= f) (y >>= g) := by
  cases h with
  | ok hab => exact hfg _ _ hab
  | error he => exact .error he

/-- Related outcomes remain so when their errors are translated alike. -/
lemma mapError {R' : ε' → ε' → Prop} {f : ε → ε'} (h : LiftRel R S x y)
    (hf : ∀ e e', R e e' → R' (f e) (f e')) : LiftRel R' S (x.mapError f) (y.mapError f) := by
  cases h with
  | ok hab => exact .ok hab
  | error he => exact .error (hf _ _ he)

lemma imp {R' : ε → ε' → Prop} {R : ε → ε' → Prop} {S S' : α → β → Prop} {x : Except ε α} {y : Except ε' β}
    (h : LiftRel R S x y) (hR : ∀ e e', R e e' → R' e e') (hS : ∀ a b, S a b → S' a b) :
    LiftRel R' S' x y := by
  cases h with
  | ok hab => exact .ok (hS _ _ hab)
  | error he => exact .error (hR _ _ he)

/-- Results may be compared after they are translated. -/
lemma map_iff {γ : Type} {T : β → γ → Prop} {x : Except ε α} {y : Except ε α} {f : α → β} {g : α → γ} :
    LiftRel R T (x.map f) (y.map g) ↔ LiftRel R (fun a b => T (f a) (g b)) x y := by
  constructor
  · intro h
    cases x <;> cases y <;> cases h
    · next he => exact .error he
    · next hab => exact .ok hab
  · intro h
    cases h with
    | ok hab => exact .ok hab
    | error he => exact .error he

/-- What is known of the results on both sides may be added to the relation. -/
lemma and_ok {P Q : α → Prop} (h : LiftRel R S x y) (hx : ∀ a, x = .ok a → P a)
    (hy : ∀ b, y = .ok b → Q b) : LiftRel R (fun a b => S a b ∧ P a ∧ Q b) x y := by
  cases h with
  | ok hab => exact .ok ⟨hab, hx _ rfl, hy _ rfl⟩
  | error he => exact .error he

end LiftRel

/-- Two lists fail at the same place, where `R` relates the two members and their errors; what comes before it
goes through. -/
def FailAlike (f g : α → Except ε β) (R : α → α → ε → ε → Prop) (as bs : List α) (e e' : ε) : Prop :=
  ∃ before a after before' b after', as = before ++ a :: after ∧ bs = before' ++ b :: after' ∧
    before.length = before'.length ∧ (∀ x ∈ before, ∃ c, f x = .ok c) ∧
      (∀ x ∈ before', ∃ c, g x = .ok c) ∧ R a b e e'

/-- **Two lists of related computations go through, or they fail at the same place.** -/
theorem LiftRel.mapM {f g : α → Except ε β} {R : α → α → ε → ε → Prop} {S : β → β → Prop}
    {as bs : List α} (h : List.Forall₂ (fun a b => LiftRel (R a b) S (f a) (g b)) as bs) :
    LiftRel (FailAlike f g R as bs) (List.Forall₂ S) (as.mapM f) (bs.mapM g) := by
  induction h with
  | nil => exact .ok .nil
  | @cons a b as bs hab _ ih =>
      rw [List.mapM_cons, List.mapM_cons]
      generalize hx : f a = x at hab
      generalize hy : g b = y at hab
      cases hab with
      | error he =>
          exact .error ⟨[], a, as, [], b, bs, rfl, rfl, rfl, by simp, by simp, he⟩
      | ok hresult =>
          -- the two members go through, so the lists fail where their tails do
          refine (ih.imp ?_ fun _ _ => id).bind fun _ _ hrest => .ok (.cons hresult hrest)
          rintro e e' ⟨before, c, after, before', d, after', rfl, rfl, hlength, hgood, hgood', he⟩
          exact ⟨a :: before, c, after, b :: before', d, after', rfl, rfl, congrArg Nat.succ hlength,
            List.forall_mem_cons.mpr ⟨⟨_, hx⟩, hgood⟩, List.forall_mem_cons.mpr ⟨⟨_, hy⟩, hgood'⟩, he⟩

end Except
