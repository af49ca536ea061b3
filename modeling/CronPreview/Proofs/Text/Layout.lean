/-
How text is laid out between separators.

* `Text.cutAt_cases`, `Text.cutAt_append_of_not_mem`: text without a separator, or text cut at its first one;
* `Text.pieces_append`, `Text.pieces_cases`: the first piece of a text and the pieces after it;
* `Text.Spread`: a text is a list of words with blanks between and around them;
* `Text.words_eq_iff`: the words of a text are those of which it is laid out.
-/
import Mathlib.Data.List.TakeWhile
import Mathlib.Tactic
import CronPreview.Text.Blank

namespace CronPreview.Text

variable {cs : List Char}

/-! ### Cuts and pieces -/

/-- A text has no separator, or it is cut at the first one. -/
lemma cutAt_cases (sep : Char) (cs : List Char) :
    sep ∉ cs ∧ cutAt sep cs = (cs, none) ∨
      ∃ before after, cs = before ++ sep :: after ∧ sep ∉ before ∧
        cutAt sep cs = (before, some after) := by
  by_cases h : sep ∈ cs
  · obtain ⟨before, after, rfl, hbefore⟩ := List.eq_append_cons_of_mem h
    exact Or.inr ⟨before, after, rfl, hbefore, cutAt_append hbefore after⟩
  · exact Or.inl ⟨h, cutAt_of_not_mem h⟩

/-- Text without a separator stays in front of the cut. -/
lemma cutAt_append_of_not_mem {sep : Char} (h : sep ∉ cs) (rest : List Char) :
    cutAt sep (cs ++ rest) = (cs ++ (cutAt sep rest).1, (cutAt sep rest).2) := by
  rcases cutAt_cases sep rest with ⟨hrest, hcut⟩ | ⟨before, after, rfl, hbefore, hcut⟩
  · have hboth : sep ∉ cs ++ rest := fun hmem => (List.mem_append.mp hmem).elim h hrest
    rw [hcut, cutAt_of_not_mem hboth]
  · have hboth : sep ∉ cs ++ before := fun hmem => (List.mem_append.mp hmem).elim h hbefore
    rw [hcut, ← List.append_assoc, cutAt_append hboth]

variable {p : Char → Bool}

/-- The first separator ends the first piece. -/
lemma pieces_append {w : List Char} {sep : Char} (hw : ∀ c ∈ w, p c = false) (hsep : p sep = true)
    (rest : List Char) : pieces p (w ++ sep :: rest) = w :: pieces p rest := by
  induction w with
  | nil => simp [pieces, hsep]
  | cons c w ih =>
      rw [List.cons_append, pieces, ih fun x hx => hw x (List.mem_cons_of_mem c hx),
        hw c List.mem_cons_self]
      rfl

/-- What stands on the two sides of a separator is cut apart from each other. -/
lemma pieces_append_cons {sep : Char} (hsep : p sep = true) (cs ds : List Char) :
    pieces p (cs ++ sep :: ds) = pieces p cs ++ pieces p ds := by
  induction cs with
  | nil => simp [pieces, hsep]
  | cons c cs ih =>
      rw [List.cons_append, pieces, pieces, ih]
      cases hp : p c with
      | true => rfl
      | false =>
          obtain ⟨w, ws, hpieces⟩ := List.exists_cons_of_ne_nil (pieces_ne_nil p cs)
          rw [hpieces]
          rfl

/-- A text is its own only piece, or its first piece ends at a separator. -/
lemma pieces_cases (p : Char → Bool) (cs : List Char) :
    (∀ c ∈ cs, p c = false) ∧ pieces p cs = [cs] ∨
      ∃ w sep rest, cs = w ++ sep :: rest ∧ (∀ c ∈ w, p c = false) ∧ p sep = true ∧
        pieces p cs = w :: pieces p rest := by
  induction cs with
  | nil => exact Or.inl ⟨by simp, rfl⟩
  | cons c cs ih =>
      cases hc : p c with
      | true => exact Or.inr ⟨[], c, cs, rfl, by simp, hc, pieces_append (w := []) (by simp) hc cs⟩
      | false =>
          rcases ih with ⟨hall, -⟩ | ⟨w, sep, rest, rfl, hw, hsep, -⟩
          · have hall' : ∀ x ∈ c :: cs, p x = false := by simpa [hc] using hall
            exact Or.inl ⟨hall', pieces_of_forall hall'⟩
          · have hw' : ∀ x ∈ c :: w, p x = false := by simpa [hc] using hw
            exact Or.inr ⟨c :: w, sep, rest, rfl, hw', hsep, pieces_append hw' hsep rest⟩

/-- A piece is a part of the text. -/
lemma sublist_of_mem_pieces {w : List Char} (hw : w ∈ pieces p cs) : w.Sublist cs := by
  induction cs generalizing w with
  | nil =>
      obtain rfl : w = [] := by simpa [pieces] using hw
      exact List.Sublist.refl []
  | cons c cs ih =>
      rw [pieces] at hw
      split at hw
      · rcases List.mem_cons.mp hw with rfl | hw
        · exact List.nil_sublist _
        · exact (ih hw).cons c
      · split at hw
        · next heq => exact absurd heq (pieces_ne_nil p cs)
        · next v vs heq =>
            rcases List.mem_cons.mp hw with rfl | hw
            · exact (ih (by rw [heq]; exact List.mem_cons_self)).cons_cons c
            · exact (ih (by rw [heq]; exact List.mem_cons_of_mem v hw)).cons c

/-- A piece holds only characters of the text. -/
lemma mem_of_mem_pieces {w : List Char} {c : Char} (hw : w ∈ pieces p cs) (hc : c ∈ w) :
    c ∈ cs :=
  (sublist_of_mem_pieces hw).subset hc

/-! ### Words -/

/-- A word has characters, and none of them is blank. -/
structure IsWord (w : List Char) : Prop where
  ne_nil : w ≠ []
  not_blank : ∀ c ∈ w, isBlank c = false

/-- The text is spread over these words: blanks stand around them, and at least one between
neighbours. -/
inductive Spread : List Char → List (List Char) → Prop
  | nil {bs : List Char} : (∀ b ∈ bs, isBlank b = true) → Spread bs []
  | last {bs w : List Char} : (∀ b ∈ bs, isBlank b = true) → IsWord w → Spread (bs ++ w) [w]
  | cons {bs w rest : List Char} {b : Char} {ws : List (List Char)} :
      (∀ b ∈ bs, isBlank b = true) → IsWord w → isBlank b = true → Spread rest ws →
        Spread (bs ++ (w ++ b :: rest)) (w :: ws)

lemma Spread.isWord {ws : List (List Char)} (h : Spread cs ws) : ∀ w ∈ ws, IsWord w := by
  induction h with
  | nil => simp
  | last _ hw => simpa using hw
  | cons _ hw _ _ ih => simpa using And.intro hw ih

/-- Blanks before a text add no word. -/
lemma words_append_of_blank {bs : List Char} (h : ∀ b ∈ bs, isBlank b = true) (cs : List Char) :
    words (bs ++ cs) = words cs := by
  induction bs with
  | nil => rfl
  | cons b bs ih =>
      have hb := h b List.mem_cons_self
      have := ih fun x hx => h x (List.mem_cons_of_mem b hx)
      rw [words] at this
      simp [words, pieces, hb, this]

/-- Text without a blank is its own only word. -/
lemma words_of_isWord {w : List Char} (h : IsWord w) : words w = [w] := by
  rw [words, pieces_of_forall h.not_blank]
  simp [h.ne_nil]

/-- A word that a blank ends comes before the words of the rest. -/
lemma words_append_cons {w : List Char} {b : Char} (hw : IsWord w) (hb : isBlank b = true)
    (rest : List Char) : words (w ++ b :: rest) = w :: words rest := by
  rw [words, pieces_append hw.not_blank hb, words]
  simp [hw.ne_nil]

lemma words_of_spread {ws : List (List Char)} (h : Spread cs ws) : words cs = ws := by
  induction h with
  | @nil bs hbs =>
      have := words_append_of_blank hbs []
      rwa [List.append_nil] at this
  | last hbs hw => rw [words_append_of_blank hbs, words_of_isWord hw]
  | cons hbs hw hb _ ih => rw [words_append_of_blank hbs, words_append_cons hw hb, ih]

/-- Every text is spread over some words: its first word is what stands between its leading blanks
and the next blank. -/
lemma exists_spread (cs : List Char) : ∃ ws, Spread cs ws := by
  induction hn : cs.length using Nat.strong_induction_on generalizing cs with
  | _ n ih =>
      have hsplit := List.takeWhile_append_dropWhile (p := isBlank) (l := cs)
      have hblank : ∀ b ∈ cs.takeWhile isBlank, isBlank b = true :=
        fun b hb => List.mem_takeWhile_imp hb
      generalize hbs : cs.takeWhile isBlank = bs at hsplit hblank
      generalize htext : cs.dropWhile isBlank = text at hsplit
      subst hsplit
      have hhead : text = [] ∨ ∃ c rest, text = c :: rest ∧ isBlank c = false := by
        cases htext' : text with
        | nil => exact Or.inl rfl
        | cons c rest =>
            refine Or.inr ⟨c, rest, rfl, ?_⟩
            have := List.head?_dropWhile_not isBlank (bs ++ text)
            rw [htext, htext'] at this
            simpa using this
      rcases hhead with rfl | ⟨c, rest, rfl, hc⟩
      · rw [List.append_nil]
        exact ⟨[], .nil hblank⟩
      · rcases pieces_cases isBlank (c :: rest) with ⟨hall, -⟩ | ⟨w, b, later, hw, hnb, hb, -⟩
        · exact ⟨[c :: rest], .last hblank ⟨by simp, hall⟩⟩
        · have hne : w ≠ [] := by
            rintro rfl
            rw [List.nil_append, List.cons.injEq] at hw
            rw [← hw.1, hc] at hb
            cases hb
          rw [hw] at hn ⊢
          obtain ⟨ws, hws⟩ := ih later.length (by
            rw [← hn]
            simp only [List.length_append, List.length_cons]
            omega) later rfl
          exact ⟨w :: ws, .cons hblank ⟨hne, hnb⟩ hb hws⟩

/-- **The words of a text are those over which it is spread.** -/
theorem words_eq_iff {ws : List (List Char)} : words cs = ws ↔ Spread cs ws := by
  refine ⟨?_, words_of_spread⟩
  rintro rfl
  obtain ⟨ws, h⟩ := exists_spread cs
  rwa [words_of_spread h]

/-- A text without blanks at its ends stays as it is when it is trimmed. -/
lemma trim_of_not_blank (h : ∀ c ∈ cs, isBlank c = false) : trim cs = cs := by
  have hdrop : ∀ l : List Char, (∀ c ∈ l, isBlank c = false) → l.dropWhile isBlank = l := by
    intro l hl
    cases l with
    | nil => rfl
    | cons c l => rw [List.dropWhile_cons, hl c List.mem_cons_self]; rfl
  rw [trim, hdrop cs h, trimEnd, hdrop cs.reverse (by simpa using h), List.reverse_reverse]

end CronPreview.Text
