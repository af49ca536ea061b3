/-
Cutting text at separators.

* `pieces`: the stretches between separators, one more than there are separators;
* `cutAt`: the text before the first separator, and the text after it if there is one;
* `pieces_ne_nil`: there is always at least one piece;
* `pieces_of_forall`: text without a separator is its own only piece;
* `cutAt_of_not_mem`: text without the separator has nothing after it;
* `length_lt_of_cutAt`: the text after a separator is shorter than the whole text.
-/

namespace CronPreview.Text

/-- The stretches of text between the characters that satisfy `p`, empty ones included. -/
def pieces (p : Char → Bool) : List Char → List (List Char)
  | [] => [[]]
  | c :: cs =>
    if p c then [] :: pieces p cs
    else match pieces p cs with
      | [] => [[c]]
      | w :: ws => (c :: w) :: ws

/-- The text before the first `sep`, and the text after it when `sep` occurs. -/
def cutAt (sep : Char) : List Char → List Char × Option (List Char)
  | [] => ([], none)
  | c :: cs =>
    if c = sep then ([], some cs)
    else
      let (before, after) := cutAt sep cs
      (c :: before, after)

/-- There is always at least one piece. -/
theorem pieces_ne_nil (p : Char → Bool) (cs : List Char) : pieces p cs ≠ [] := by
  cases cs with
  | nil => simp [pieces]
  | cons c cs =>
    rw [pieces]
    split
    · simp
    · split <;> simp

/-- Text without a separator is its own only piece. -/
theorem pieces_of_forall {p : Char → Bool} {cs : List Char} (h : ∀ c ∈ cs, p c = false) :
    pieces p cs = [cs] := by
  induction cs with
  | nil => rfl
  | cons c cs ih =>
    rw [pieces, ih fun x hx => h x (List.mem_cons_of_mem c hx)]
    simp [h c List.mem_cons_self]

/-- Text without the separator has nothing after it. -/
theorem cutAt_of_not_mem {sep : Char} {cs : List Char} (h : sep ∉ cs) :
    cutAt sep cs = (cs, none) := by
  induction cs with
  | nil => rfl
  | cons c cs ih =>
    have hc : c ≠ sep := fun e => h (e ▸ List.mem_cons_self)
    simp [cutAt, hc, ih fun m => h (List.mem_cons_of_mem c m)]

/-- The first separator after text that holds none is where the text is cut. -/
theorem cutAt_append {sep : Char} {cs : List Char} (h : sep ∉ cs) (rest : List Char) :
    cutAt sep (cs ++ sep :: rest) = (cs, some rest) := by
  induction cs with
  | nil => simp [cutAt]
  | cons c cs ih =>
    have hc : c ≠ sep := fun e => h (e ▸ List.mem_cons_self)
    simp [cutAt, hc, ih fun m => h (List.mem_cons_of_mem c m)]

/-- The text after a separator is shorter than the whole text. -/
theorem length_lt_of_cutAt {sep : Char} {cs rest : List Char} (h : (cutAt sep cs).2 = some rest) :
    rest.length < cs.length := by
  induction cs with
  | nil => simp [cutAt] at h
  | cons c cs ih =>
    rw [cutAt] at h
    split at h
    · simp only [Option.some.injEq] at h
      simp [h]
    · exact Nat.lt_succ_of_lt (ih h)

end CronPreview.Text
