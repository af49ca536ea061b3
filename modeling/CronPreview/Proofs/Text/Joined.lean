/-
Text that is joined from parts.

* `Text.pieces_eq_iff`, `Text.pieces_append_sep`: the pieces of a text are the parts, free of separators, of
  which it is joined;
* `Text.intercalate_flatten`, `Text.intercalate_append_mark`: parts that are joined from parts, and
  separators that belong to the part before them;
* `Text.spread_intercalate`: words that are joined with spaces are spread over the text;
* `Text.words_append_blank`, `Text.words_append_word`: a text has the words on the two sides of a blank, and any word
  that stands between blanks;
* `Text.trim_trim`: what is trimmed once remains as it is;
* `Text.map_trim_pieces_trim`: pieces that are trimmed may be trimmed together before;
* `Text.words_trim`, `Text.words_respaced`: a text keeps its words when it is trimmed, and when its words
  are written with one space between neighbours.
-/
import Mathlib.Data.List.DropRight
import CronPreview.Proofs.Text.Layout

namespace CronPreview.Text

variable {cs : List Char}

/-! ### Pieces -/

lemma pieces_eq_splitOnP (p : Char → Bool) (cs : List Char) : pieces p cs = cs.splitOnP p := by
  induction cs with
  | nil => rfl
  | cons c cs ih =>
      rw [pieces, ih, List.splitOnP_cons_eq_if_modifyHead]
      cases h : cs.splitOnP p with
      | nil => exact absurd (ih.trans h) (pieces_ne_nil p cs)
      | cons w ws => rfl

lemma pieces_eq_splitOn (sep : Char) (cs : List Char) : pieces (· == sep) cs = cs.splitOn sep := by
  rw [pieces_eq_splitOnP, List.splitOn_eq_splitOnP]

/-- A piece has no separator in it. -/
lemma not_mem_of_mem_pieces {sep : Char} {w : List Char} (h : w ∈ pieces (· == sep) cs) :
    sep ∉ w := by
  induction cs generalizing w with
  | nil =>
      obtain rfl : w = [] := by simpa [pieces] using h
      exact List.not_mem_nil
  | cons c cs ih =>
      rw [pieces] at h
      split at h
      · rcases List.mem_cons.mp h with rfl | h
        · exact List.not_mem_nil
        · exact ih h
      · next hc =>
          have hne : sep ≠ c := fun e => hc (beq_iff_eq.mpr e.symm)
          split at h
          · next heq => exact absurd heq (pieces_ne_nil _ cs)
          · next v vs heq =>
              rcases List.mem_cons.mp h with rfl | h
              · have hv := ih (by rw [heq]; exact List.mem_cons_self)
                exact List.not_mem_cons_of_ne_of_not_mem hne hv
              · exact ih (by rw [heq]; exact List.mem_cons_of_mem v h)

/-- **The pieces of a text are the parts of which it is joined**, none of which has a separator. -/
theorem pieces_eq_iff {sep : Char} {ws : List (List Char)} :
    pieces (· == sep) cs = ws ↔
      ws ≠ [] ∧ (∀ w ∈ ws, sep ∉ w) ∧ [sep].intercalate ws = cs := by
  constructor
  · rintro rfl
    refine ⟨pieces_ne_nil _ cs, fun w hw => not_mem_of_mem_pieces hw, ?_⟩
    rw [pieces_eq_splitOn, List.intercalate_splitOn]
  · rintro ⟨hne, hws, rfl⟩
    rw [pieces_eq_splitOn, List.splitOn_intercalate sep hws hne]

/-! ### Joined parts -/

/-- Parts are joined part by part. -/
lemma intercalate_append (sep : List Char) {as bs : List (List Char)} (ha : as ≠ []) (hb : bs ≠ []) :
    sep.intercalate (as ++ bs) = sep.intercalate as ++ sep ++ sep.intercalate bs := by
  induction as with
  | nil => exact absurd rfl ha
  | cons a as ih =>
      cases as with
      | nil => rw [List.singleton_append, List.intercalate_cons_of_ne_nil hb,
          List.intercalate_singleton]
      | cons a' as =>
          rw [List.cons_append, List.intercalate_cons_of_ne_nil (by simp), ih (by simp),
            List.intercalate_cons_cons]
          simp only [List.append_assoc]

/-- Lists of parts that are joined, and are joined with one another, are joined as one list. -/
lemma intercalate_flatten (sep : List Char) {wss : List (List (List Char))}
    (h : ∀ ws ∈ wss, ws ≠ []) :
    sep.intercalate (wss.map sep.intercalate) = sep.intercalate wss.flatten := by
  induction wss with
  | nil => rfl
  | cons ws wss ih =>
      obtain ⟨hws, hwss⟩ := List.forall_mem_cons.mp h
      rw [List.map_cons, List.flatten_cons]
      cases wss with
      | nil => simp
      | cons vs wss =>
          have hne : (vs :: wss).flatten ≠ [] := by
            simp [(List.forall_mem_cons.mp hwss).1]
          rw [List.intercalate_cons_of_ne_nil (by simp), ih hwss, intercalate_append sep hws hne]

/-- The front of a separator may be counted as the end of the part before it. -/
lemma intercalate_append_mark (mark sep : List Char) {ws : List (List Char)} (h : ws ≠ []) :
    (mark ++ sep).intercalate ws ++ mark = sep.intercalate (ws.map (· ++ mark)) := by
  induction ws with
  | nil => exact absurd rfl h
  | cons w ws ih =>
      cases ws with
      | nil => simp
      | cons v ws =>
          rw [List.intercalate_cons_cons, List.map_cons, List.append_assoc, ih (by simp),
            List.map_cons, List.intercalate_cons_cons]
          simp only [List.append_assoc]

/-- What is joined with a separator has the pieces of both sides. -/
lemma pieces_append_sep (sep : Char) (cs ds : List Char) :
    pieces (· == sep) (cs ++ sep :: ds) = pieces (· == sep) cs ++ pieces (· == sep) ds :=
  pieces_append_cons (p := (· == sep)) (beq_self_eq_true sep) cs ds

/-! ### Words -/

lemma isWord_of_mem_words {w : List Char} (h : w ∈ words cs) : IsWord w :=
  (words_eq_iff.mp rfl).isWord w h

/-- Blanks after a text add no word. -/
lemma Spread.append_blank {ws : List (List Char)} (h : Spread cs ws) {bs : List Char}
    (hbs : ∀ b ∈ bs, isBlank b = true) : Spread (cs ++ bs) ws := by
  induction h with
  | nil has => exact .nil fun b hb => (List.mem_append.mp hb).elim (has b) (hbs b)
  | @last as w has hw =>
      cases bs with
      | nil =>
          rw [List.append_nil]
          exact .last has hw
      | cons b bs =>
          rw [List.append_assoc]
          obtain ⟨hb, hbs⟩ := List.forall_mem_cons.mp hbs
          exact .cons has hw hb (.nil hbs)
  | cons has hw hb _ ih =>
      rw [List.append_assoc, List.append_assoc, List.cons_append]
      exact .cons has hw hb ih

/-- Words that are joined with spaces are spread over the text. -/
lemma spread_intercalate {ws : List (List Char)} (h : ∀ w ∈ ws, IsWord w) :
    Spread ([' '].intercalate ws) ws := by
  induction ws with
  | nil => exact .nil (by simp)
  | cons w ws ih =>
      obtain ⟨hw, hws⟩ := List.forall_mem_cons.mp h
      cases ws with
      | nil =>
          rw [List.intercalate_singleton]
          exact @Spread.last [] w (by simp) hw
      | cons v ws =>
          rw [List.intercalate_cons_cons, List.append_assoc, List.singleton_append]
          exact @Spread.cons [] w _ ' ' _ (by simp) hw rfl (ih hws)

/-- The words on the two sides of a blank. -/
lemma words_append_blank {b : Char} (hb : isBlank b = true) (as bs : List Char) :
    words (as ++ b :: bs) = words as ++ words bs := by
  rw [words, pieces_append_cons hb, List.filter_append, words, words]

/-- A word that stands in a text, with a blank or nothing on either side, is one of its words. -/
lemma words_append_word {front w back : List Char} (hw : IsWord w)
    (hfront : ∀ b ∈ front.getLast?, isBlank b = true) (hback : ∀ b ∈ back.head?, isBlank b = true) :
    words (front ++ (w ++ back)) = words front ++ w :: words back := by
  have hright : words (w ++ back) = w :: words back := by
    cases back with
    | nil => rw [List.append_nil, words_of_isWord hw]; rfl
    | cons b bs =>
        have hb := hback b rfl
        rw [words_append_cons hw hb, ← List.nil_append (b :: bs), words_append_blank hb]
        rfl
  rcases front.eq_nil_or_concat' with rfl | ⟨as, b, rfl⟩
  · rw [List.nil_append, hright]
    rfl
  · have hb := hfront b List.getLast?_concat
    rw [List.append_assoc, List.singleton_append, words_append_blank hb, words_append_blank hb, hright]
    simp [words, pieces]

/-- A text keeps its words when they are written with one space between neighbours. -/
theorem words_respaced (cs : List Char) : words (respaced cs) = words cs :=
  words_of_spread (spread_intercalate fun _ hw => isWord_of_mem_words hw)

/-- What is trimmed off a text are the blanks at its two ends. -/
lemma exists_eq_append_trim (cs : List Char) :
    ∃ as bs, cs = as ++ (trim cs ++ bs) ∧ (∀ b ∈ as, isBlank b = true) ∧ ∀ b ∈ bs, isBlank b = true := by
  have hfront := List.takeWhile_append_dropWhile (p := isBlank) (l := cs)
  have hback := List.takeWhile_append_dropWhile (p := isBlank) (l := (cs.dropWhile isBlank).reverse)
  refine ⟨cs.takeWhile isBlank, ((cs.dropWhile isBlank).reverse.takeWhile isBlank).reverse, ?_,
    fun b hb => List.mem_takeWhile_imp hb,
    fun b hb => List.mem_takeWhile_imp (List.mem_reverse.mp hb)⟩
  rw [trim, trimEnd, ← List.reverse_append, hback, List.reverse_reverse, hfront]

/-- A text keeps its words when the blanks around it are taken away. -/
theorem words_trim (cs : List Char) : words (trim cs) = words cs := by
  obtain ⟨as, bs, hcs, has, hbs⟩ := exists_eq_append_trim cs
  have hspread : Spread (trim cs ++ bs) (words (trim cs)) :=
    Spread.append_blank (words_eq_iff.mp rfl) hbs
  conv_rhs => rw [hcs]
  rw [words_append_of_blank has, words_of_spread hspread]

/-! ### Trimmed text and trimmed pieces -/

/-- A text that is trimmed does not begin with a blank. -/
lemma dropWhile_trim (cs : List Char) : (trim cs).dropWhile isBlank = trim cs := by
  have hprefix : trim cs <+: cs.dropWhile isBlank := List.rdropWhile_prefix isBlank _
  cases htrim : trim cs with
  | nil => rfl
  | cons c w =>
      obtain ⟨rest, hrest⟩ := hprefix
      have hhead := List.head?_dropWhile_not isBlank cs
      rw [← hrest, htrim] at hhead
      have hc : isBlank c = false := by simpa using hhead
      simp [hc]

/-- **What is trimmed once remains as it is.** -/
theorem trim_trim (cs : List Char) : trim (trim cs) = trim cs := by
  rw [trim, dropWhile_trim]
  exact List.rdropWhile_idempotent isBlank (cs.dropWhile isBlank)

lemma trim_append_left {bs : List Char} (hbs : ∀ b ∈ bs, isBlank b = true) (cs : List Char) :
    trim (bs ++ cs) = trim cs := by
  rw [trim, trim, List.dropWhile_append_of_pos hbs]

lemma trim_append_right {bs : List Char} (hbs : ∀ b ∈ bs, isBlank b = true) (cs : List Char) :
    trim (cs ++ bs) = trim cs := by
  have hend : ∀ w : List Char, trimEnd (w ++ bs) = trimEnd w := by
    intro w
    rw [trimEnd, trimEnd, List.reverse_append, List.dropWhile_append_of_pos (by simpa using hbs)]
  rw [trim, trim, List.dropWhile_append]
  split
  · next hempty =>
      have hall : bs.dropWhile isBlank = [] := List.dropWhile_eq_nil_iff.mpr hbs
      rw [List.isEmpty_iff.mp hempty, hall]
  · exact hend _

/-- Only a text of blanks has nothing left when it is trimmed. -/
lemma trim_ne_nil (h : ∃ c ∈ cs, isBlank c = false) : trim cs ≠ [] := by
  obtain ⟨c, hc, hblank⟩ := h
  obtain ⟨as, bs, hcs, has, hbs⟩ := exists_eq_append_trim cs
  intro hnil
  rw [hcs, hnil, List.nil_append] at hc
  have htrue : isBlank c = true := (List.mem_append.mp hc).elim (has c) (hbs c)
  rw [hblank] at htrue
  cases htrue

/-- Text without a separator that is added in front belongs to the first piece. -/
lemma pieces_append_left {sep : Char} {as w : List Char} {ws : List (List Char)} (has : sep ∉ as)
    (h : pieces (· == sep) cs = w :: ws) : pieces (· == sep) (as ++ cs) = (as ++ w) :: ws := by
  obtain ⟨-, hws, hjoin⟩ := pieces_eq_iff.mp h
  obtain ⟨hw, hws⟩ := List.forall_mem_cons.mp hws
  refine pieces_eq_iff.mpr ⟨List.cons_ne_nil _ _, List.forall_mem_cons.mpr ⟨?_, hws⟩, ?_⟩
  · exact fun hmem => (List.mem_append.mp hmem).elim has hw
  · rw [← hjoin]
    cases ws with
    | nil => simp
    | cons v ws => rw [List.intercalate_cons_cons, List.intercalate_cons_cons]; simp

/-- Text without a separator that is added at the end belongs to the last piece. -/
lemma pieces_append_right {sep : Char} {bs w : List Char} {ws : List (List Char)} (hbs : sep ∉ bs)
    (h : pieces (· == sep) cs = ws ++ [w]) :
    pieces (· == sep) (cs ++ bs) = ws ++ [w ++ bs] := by
  obtain ⟨-, hws, hjoin⟩ := pieces_eq_iff.mp h
  refine pieces_eq_iff.mpr ⟨by simp, fun v hv => ?_, ?_⟩
  · rcases List.mem_append.mp hv with hv | hv
    · exact hws v (List.mem_append_left _ hv)
    · obtain rfl := List.mem_singleton.mp hv
      exact fun hmem => (List.mem_append.mp hmem).elim (hws w (by simp)) hbs
  · rw [← hjoin]
    cases ws with
    | nil => simp
    | cons v ws =>
        rw [intercalate_append _ (by simp) (by simp), intercalate_append _ (by simp) (by simp)]
        simp

/-- **Pieces that are trimmed one by one may be trimmed together before**: the blanks around a text are blanks
around its first piece and around its last one. -/
theorem map_trim_pieces_trim {sep : Char} (hsep : isBlank sep = false) (cs : List Char) :
    (pieces (· == sep) (trim cs)).map trim = (pieces (· == sep) cs).map trim := by
  obtain ⟨as, bs, hcs, has, hbs⟩ := exists_eq_append_trim cs
  have hnot : ∀ {bs : List Char}, (∀ b ∈ bs, isBlank b = true) → sep ∉ bs := by
    intro bs hbs hmem
    have hblank := hbs sep hmem
    rw [hsep] at hblank
    cases hblank
  have hright : (pieces (· == sep) (trim cs ++ bs)).map trim = (pieces (· == sep) (trim cs)).map trim := by
    obtain ⟨ws, w, hlast⟩ := (pieces (· == sep) (trim cs)).eq_nil_or_concat'.resolve_left
      (pieces_ne_nil _ _)
    rw [pieces_append_right (hnot hbs) hlast, hlast, List.map_append, List.map_append,
      List.map_singleton, List.map_singleton, trim_append_right hbs]
  have hleft : (pieces (· == sep) cs).map trim = (pieces (· == sep) (trim cs ++ bs)).map trim := by
    obtain ⟨w, ws, hfirst⟩ := List.exists_cons_of_ne_nil (pieces_ne_nil (· == sep) (trim cs ++ bs))
    have hwhole := pieces_append_left (hnot has) hfirst
    rw [← hcs] at hwhole
    rw [hwhole, hfirst, List.map_cons, List.map_cons, trim_append_left has]
  rw [hleft, hright]

lemma length_trim_le (cs : List Char) : (trim cs).length ≤ cs.length :=
  Nat.le_trans (List.rdropWhile_prefix isBlank _).length_le (List.length_dropWhile_le ..)

end CronPreview.Text
