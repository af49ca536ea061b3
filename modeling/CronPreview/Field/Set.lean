/-
The values that one field of a schedule allows: a finite set of integers, kept as the increasing
list of its members.

* `FieldSet`: the set, which is determined by its members (`FieldSet.ext_mem`);
* `FieldSet.ofList`: the members of a list, in any order and number;
* `FieldSet.mem_ofList`: a value is in the set when it is in the list;
* `FieldSet.mem_union`: a value is in a union when it is in one of the two sets.
-/

namespace CronPreview

/-- A finite set of integers, as the increasing list of its members. -/
structure FieldSet where
  /-- The members, in increasing order. -/
  toList : List Int
  /-- Each member is less than the ones after it. -/
  increasing : toList.Pairwise (· < ·)
deriving DecidableEq

namespace FieldSet

instance : Membership Int FieldSet where
  mem s v := v ∈ s.toList

instance (v : Int) (s : FieldSet) : Decidable (v ∈ s) :=
  inferInstanceAs (Decidable (v ∈ s.toList))

/-- Membership is membership in the list. -/
@[simp] theorem mem_toList {v : Int} {s : FieldSet} : v ∈ s.toList ↔ v ∈ s :=
  Iff.rfl

/-- Puts a value into its place in an increasing list, where it may be already. -/
def insertInto (x : Int) : List Int → List Int
  | [] => [x]
  | y :: ys =>
    if x < y then x :: y :: ys
    else if x = y then y :: ys
    else y :: insertInto x ys

/-- Insertion adds the value and nothing else. -/
theorem mem_insertInto {v x : Int} {l : List Int} : v ∈ insertInto x l ↔ v = x ∨ v ∈ l := by
  induction l with
  | nil => simp [insertInto]
  | cons y ys ih =>
    rw [insertInto]
    split
    · simp
    · split
      · next h => simp [h]
      · simp only [List.mem_cons, ih]
        constructor
        · rintro (h | h | h) <;> simp [h]
        · rintro (h | h | h) <;> simp [h]

/-- Insertion keeps an increasing list increasing. -/
theorem pairwise_insertInto {x : Int} {l : List Int} (h : l.Pairwise (· < ·)) :
    (insertInto x l).Pairwise (· < ·) := by
  induction l with
  | nil => simp [insertInto]
  | cons y ys ih =>
    have hy := List.pairwise_cons.mp h
    rw [insertInto]
    split
    · next hxy =>
      refine List.pairwise_cons.mpr ⟨fun v hv => ?_, h⟩
      rcases List.mem_cons.mp hv with rfl | hv
      · exact hxy
      · have := hy.1 v hv
        omega
    · split
      · exact h
      · refine List.pairwise_cons.mpr ⟨fun v hv => ?_, ih hy.2⟩
        rcases mem_insertInto.mp hv with rfl | hv
        · omega
        · exact hy.1 v hv

/-- The set with one more member. -/
def insert (x : Int) (s : FieldSet) : FieldSet :=
  ⟨insertInto x s.toList, pairwise_insertInto s.increasing⟩

/-- The set without members. -/
def empty : FieldSet :=
  ⟨[], List.Pairwise.nil⟩

/-- The set of the values in a list. -/
def ofList (l : List Int) : FieldSet :=
  l.foldr insert empty

/-- The members of two sets together. -/
def union (s t : FieldSet) : FieldSet :=
  s.toList.foldr insert t

/-- The inserted value is a member, and so are the others. -/
@[simp] theorem mem_insert {v x : Int} {s : FieldSet} : v ∈ s.insert x ↔ v = x ∨ v ∈ s :=
  mem_insertInto

/-- The empty set has no member. -/
@[simp] theorem not_mem_empty {v : Int} : v ∉ empty :=
  List.not_mem_nil

/-- A value is in the set of a list when it is in the list. -/
@[simp] theorem mem_ofList {v : Int} {l : List Int} : v ∈ ofList l ↔ v ∈ l := by
  induction l with
  | nil => simp [ofList]
  | cons x xs ih =>
    rw [ofList] at ih
    simp [ofList, ih]

/-- A value is in a union when it is in one of the two sets. -/
@[simp] theorem mem_union {v : Int} {s t : FieldSet} : v ∈ s.union t ↔ v ∈ s ∨ v ∈ t := by
  suffices ∀ l : List Int, v ∈ l.foldr insert t ↔ v ∈ l ∨ v ∈ t from this s.toList
  intro l
  induction l with
  | nil => simp
  | cons x xs ih => simp [ih, or_assoc]

/-- Two increasing lists with the same members are the same list. -/
theorem eq_of_mem_iff {l : List Int} (hl : l.Pairwise (· < ·)) {m : List Int}
    (hm : m.Pairwise (· < ·)) (h : ∀ v, v ∈ l ↔ v ∈ m) : l = m := by
  induction l generalizing m with
  | nil =>
    cases m with
    | nil => rfl
    | cons y ys => exact absurd ((h y).mpr List.mem_cons_self) List.not_mem_nil
  | cons x xs ih =>
    cases m with
    | nil => exact absurd ((h x).mp List.mem_cons_self) List.not_mem_nil
    | cons y ys =>
      have hx := List.pairwise_cons.mp hl
      have hy := List.pairwise_cons.mp hm
      have hxy : x = y := by
        rcases List.mem_cons.mp ((h x).mp List.mem_cons_self) with e | hxm
        · exact e
        · rcases List.mem_cons.mp ((h y).mpr List.mem_cons_self) with e | hym
          · exact e.symm
          · have h₁ := hy.1 x hxm
            have h₂ := hx.1 y hym
            omega
      subst hxy
      refine congrArg _ (ih hx.2 hy.2 fun v => ⟨fun hv => ?_, fun hv => ?_⟩)
      · rcases List.mem_cons.mp ((h v).mp (List.mem_cons_of_mem _ hv)) with e | hv'
        · have := hx.1 v hv
          omega
        · exact hv'
      · rcases List.mem_cons.mp ((h v).mpr (List.mem_cons_of_mem _ hv)) with e | hv'
        · have := hy.1 v hv
          omega
        · exact hv'

/-- A set is determined by its members. -/
theorem ext_mem {s t : FieldSet} (h : ∀ v, v ∈ s ↔ v ∈ t) : s = t := by
  obtain ⟨l, hl⟩ := s
  obtain ⟨m, hm⟩ := t
  obtain rfl : l = m := eq_of_mem_iff hl hm h
  rfl

end FieldSet

end CronPreview
