/-
Sentences, and what they tell about the clauses of which they are made.

* `IsLabelling`, `IsLabelling.labelWords_append_inj`: a set of values is known by the labels of its values;
* `Clause.words`, `Clause.words_append_inj`: the words of a clause are never the beginning of another one;
* `sentence_inj`: proper clauses are known by their sentence;
* `clauses_inj`: the fields of an expression, or the sets for which they stand, are known by its clauses.
-/
import Mathlib.Data.Int.Interval
import CronPreview.Description.Sentence
import CronPreview.Proofs.Schedule.Parsed
import CronPreview.Proofs.Text.Joined

namespace CronPreview

/-! ### Labels -/

/-- The word begins with a capital letter, as labels do and the other words of a clause do not. -/
def IsCapital (w : List Char) : Prop := w.head?.any Char.isUpper = true

instance (w : List Char) : Decidable (IsCapital w) := inferInstanceAs (Decidable (_ = _))

/-- The labels of the values of a domain are different words that begin with capital letters. -/
structure IsLabelling (d : Domain) (label : ℕ → String) : Prop where
  inj : ∀ v ∈ Finset.Icc d.min d.max, ∀ w ∈ Finset.Icc d.min d.max,
    label v.toNat = label w.toNat → v = w
  capital : ∀ v ∈ Finset.Icc d.min d.max, IsCapital (label v.toNat).toList
  no_space : ∀ v ∈ Finset.Icc d.min d.max, ' ' ∉ (label v.toNat).toList

lemma isLabelling_monthLabel : IsLabelling .month monthLabel where
  inj := by decide
  capital := by decide
  no_space := by decide

lemma isLabelling_weekdayLabel : IsLabelling .dayOfWeek weekdayLabel where
  inj := by decide
  capital := by decide
  no_space := by decide

/-- The labels of the values of a set, each with a comma behind it. -/
def labelWords (label : ℕ → String) (s : FieldSet) : List (List Char) :=
  s.toList.map fun v => (label v.toNat).toList ++ [',']

/-- Where the words with capital letters end is known. -/
lemma append_capitals_inj {ls ls' ws ws' : List (List Char)} (hls : ∀ w ∈ ls, IsCapital w)
    (hls' : ∀ w ∈ ls', IsCapital w) (hws : ∀ w ∈ ws.head?, ¬ IsCapital w)
    (hws' : ∀ w ∈ ws'.head?, ¬ IsCapital w) (h : ls ++ ws = ls' ++ ws') : ls = ls' ∧ ws = ws' := by
  have htake : ∀ {ls ws : List (List Char)}, (∀ w ∈ ls, IsCapital w) →
      (∀ w ∈ ws.head?, ¬ IsCapital w) → (ls ++ ws).takeWhile (fun w => decide (IsCapital w)) = ls := by
    intro ls ws hls hws
    rw [List.takeWhile_append_of_pos (by simpa using hls)]
    cases ws with
    | nil => simp
    | cons w ws => simpa using hws w rfl
  have heq : ls = ls' := by rw [← htake hls hws, h, htake hls' hws']
  exact ⟨heq, List.append_cancel_left (heq ▸ h)⟩

section labelWords

variable {d : Domain} {label : ℕ → String} {s t : FieldSet} {w : List Char}

lemma IsCapital.append (h : IsCapital w) (v : List Char) : IsCapital (w ++ v) := by
  cases w with
  | nil => cases h
  | cons c w => exact h

lemma exists_of_mem_labelWords (hs : Field.InDomain d s) (hw : w ∈ labelWords label s) :
    ∃ v ∈ s, v ∈ Finset.Icc d.min d.max ∧ w = (label v.toNat).toList ++ [','] := by
  obtain ⟨v, hv, rfl⟩ := List.mem_map.mp hw
  exact ⟨v, hv, Finset.mem_Icc.mpr (hs.contains v hv), rfl⟩

lemma IsLabelling.capital_of_mem (hd : IsLabelling d label) (hs : Field.InDomain d s)
    (hw : w ∈ labelWords label s) : IsCapital w := by
  obtain ⟨v, -, hv, rfl⟩ := exists_of_mem_labelWords hs hw
  exact (hd.capital v hv).append [',']

lemma IsLabelling.no_space_of_mem (hd : IsLabelling d label) (hs : Field.InDomain d s)
    (hw : w ∈ labelWords label s) : ' ' ∉ w := by
  obtain ⟨v, -, hv, rfl⟩ := exists_of_mem_labelWords hs hw
  simpa using hd.no_space v hv

lemma labelWords_ne_nil (hs : Field.InDomain d s) : labelWords label s ≠ [] := by
  obtain ⟨x, hx⟩ := hs.nonempty
  exact List.ne_nil_of_mem (List.mem_map_of_mem hx)

/-- Behind the labels of a set, of which there is one at least, stands no other word at first. -/
lemma IsLabelling.labelWords_append_ne (hd : IsLabelling d label) (hs : Field.InDomain d s)
    (hw : ¬ IsCapital w) (ws vs : List (List Char)) : labelWords label s ++ ws ≠ w :: vs := by
  intro h
  cases hl : labelWords label s with
  | nil => exact labelWords_ne_nil hs hl
  | cons l ls =>
      rw [hl] at h
      have hl' : IsCapital l := hd.capital_of_mem hs (hl ▸ List.mem_cons_self)
      obtain ⟨rfl, -⟩ := List.cons.inj h
      exact hw hl'

/-- Different sets of values have different labels. -/
lemma IsLabelling.labelWords_inj (hd : IsLabelling d label) (hs : Field.InDomain d s)
    (ht : Field.InDomain d t) (h : labelWords label s = labelWords label t) : s = t := by
  have hmem : ∀ {s t : FieldSet}, Field.InDomain d s → Field.InDomain d t →
      labelWords label s = labelWords label t → ∀ v ∈ s, v ∈ t := by
    intro s t hs ht h v hv
    have hlabel : (label v.toNat).toList ++ [','] ∈ labelWords label t := by
      rw [← h]
      exact List.mem_map_of_mem hv
    obtain ⟨w, hw, hwd, heq⟩ := exists_of_mem_labelWords ht hlabel
    have hvw := hd.inj v (Finset.mem_Icc.mpr (hs.contains v hv)) w hwd
      (String.toList_inj.mp (List.append_cancel_right heq))
    rwa [hvw]
  exact FieldSet.ext_mem fun v => ⟨hmem hs ht h v, hmem ht hs h.symm v⟩

/-- **A set of values is known by its labels**, whatever is written behind them but a label. -/
lemma IsLabelling.labelWords_append_inj {ws ws' : List (List Char)} (hd : IsLabelling d label)
    (hs : Field.InDomain d s) (ht : Field.InDomain d t) (hws : ∀ w ∈ ws.head?, ¬ IsCapital w)
    (hws' : ∀ w ∈ ws'.head?, ¬ IsCapital w)
    (h : labelWords label s ++ ws = labelWords label t ++ ws') : s = t ∧ ws = ws' := by
  obtain ⟨hlabels, hrest⟩ := append_capitals_inj (fun w hw => hd.capital_of_mem hs hw)
    (fun w hw => hd.capital_of_mem ht hw) hws hws' h
  exact ⟨hd.labelWords_inj hs ht hlabels, hrest⟩

/-- Labels are written with commas between them, and one more behind the last. -/
lemma toList_labels (hs : Field.InDomain d s) :
    (", ".intercalate (s.toList.map fun v => label v.toNat)).toList ++ [','] =
      [' '].intercalate (labelWords label s) := by
  have hne : (s.toList.map fun v => label v.toNat).map String.toList ≠ [] := by
    obtain ⟨x, hx⟩ := hs.nonempty
    simpa using List.ne_nil_of_mem hx
  have hmark := Text.intercalate_append_mark [','] [' '] hne
  rw [String.toList_intercalate, labelWords]
  simpa [Function.comp_def] using hmark

end labelWords

/-! ### Clauses -/

namespace Clause

/-- The field that a clause is about. -/
def domain : Clause → Domain
  | everyMinutes _ | atMinute _ => .minute
  | everyHours _ | atHour _ => .hour
  | onDay _ => .dayOfMonth
  | inMonths _ => .month
  | onWeekdays _ => .dayOfWeek

/-- The words of a clause, with the comma that is written behind it. -/
def words : Clause → List (List Char)
  | everyMinutes step => ["every".toList, step, "minutes,".toList]
  | atMinute field => ["at".toList, "minute".toList, field ++ [',']]
  | everyHours step => ["every".toList, step, "hours,".toList]
  | atHour field => ["at".toList, "hour".toList, field ++ [',']]
  | onDay field => ["on".toList, "day".toList, field ++ [',']]
  | inMonths months => "in".toList :: labelWords monthLabel months
  | onWeekdays days => "on".toList :: labelWords weekdayLabel days

/-- What a clause quotes has no space in it, and the sets of which it lists the values are sets of values
of their domains. -/
def IsProper : Clause → Prop
  | everyMinutes text | atMinute text | everyHours text | atHour text | onDay text => ' ' ∉ text
  | inMonths months => Field.InDomain .month months
  | onWeekdays days => Field.InDomain .dayOfWeek days

variable {c c' : Clause}

lemma words_ne_nil (c : Clause) : c.words ≠ [] := by
  cases c <;> simp [words]

/-- No clause begins with a label. -/
lemma not_capital_of_mem_head? {w : List Char} (h : w ∈ c.words.head?) : ¬ IsCapital w := by
  cases c <;> cases h <;> decide

lemma IsProper.no_space (hc : c.IsProper) : ∀ w ∈ c.words, ' ' ∉ w := by
  cases c with
  | everyMinutes text => simpa [words, IsProper] using hc
  | atMinute text => simpa [words, IsProper] using hc
  | everyHours text => simpa [words, IsProper] using hc
  | atHour text => simpa [words, IsProper] using hc
  | onDay text => simpa [words, IsProper] using hc
  | inMonths months =>
      exact List.forall_mem_cons.mpr
        ⟨by decide, fun w hw => isLabelling_monthLabel.no_space_of_mem hc hw⟩
  | onWeekdays days =>
      exact List.forall_mem_cons.mpr
        ⟨by decide, fun w hw => isLabelling_weekdayLabel.no_space_of_mem hc hw⟩

/-- **No clause is the beginning of another one**, unless a label follows. The first word tells most clauses
apart; clauses that share it differ in the unit of the step, in the name of the field, or in that a label comes
next. -/
theorem words_append_inj {ws ws' : List (List Char)} (hc : c.IsProper) (hc' : c'.IsProper)
    (hws : ∀ w ∈ ws.head?, ¬ IsCapital w) (hws' : ∀ w ∈ ws'.head?, ¬ IsCapital w)
    (h : c.words ++ ws = c'.words ++ ws') : c = c' ∧ ws = ws' := by
  cases c with
  | everyMinutes text =>
      cases c' with
      | everyMinutes text' => simpa [words] using h
      | _ => simp [words] at h
  | atMinute text =>
      cases c' with
      | atMinute text' => simpa [words] using h
      | _ => simp [words] at h
  | everyHours text =>
      cases c' with
      | everyHours text' => simpa [words] using h
      | _ => simp [words] at h
  | atHour text =>
      cases c' with
      | atHour text' => simpa [words] using h
      | _ => simp [words] at h
  | onDay text =>
      cases c' with
      | onDay text' => simpa [words] using h
      | onWeekdays days =>
          have h : labelWords weekdayLabel days ++ ws' = "day".toList :: (text ++ [',']) :: ws :=
            ((List.cons.inj h).2).symm
          exact absurd h (isLabelling_weekdayLabel.labelWords_append_ne hc' (by decide) _ _)
      | _ => simp [words] at h
  | inMonths months =>
      cases c' with
      | inMonths months' =>
          obtain ⟨rfl, hrest⟩ :=
            isLabelling_monthLabel.labelWords_append_inj hc hc' hws hws' (List.cons.inj h).2
          exact ⟨rfl, hrest⟩
      | _ => simp [words] at h
  | onWeekdays days =>
      cases c' with
      | onDay text =>
          have h : labelWords weekdayLabel days ++ ws = "day".toList :: (text ++ [',']) :: ws' :=
            (List.cons.inj h).2
          exact absurd h (isLabelling_weekdayLabel.labelWords_append_ne hc (by decide) _ _)
      | onWeekdays days' =>
          obtain ⟨rfl, hrest⟩ :=
            isLabelling_weekdayLabel.labelWords_append_inj hc hc' hws hws' (List.cons.inj h).2
          exact ⟨rfl, hrest⟩
      | _ => simp [words] at h

/-- A clause is written as its words, with spaces between them. -/
lemma toList_text (hc : c.IsProper) : c.text.toList ++ [','] = [' '].intercalate c.words := by
  cases c with
  | everyMinutes field => simp [Clause.text, words]
  | atMinute field => simp [Clause.text, words]
  | everyHours field => simp [Clause.text, words]
  | atHour field => simp [Clause.text, words]
  | onDay field => simp [Clause.text, words]
  | inMonths months =>
      rw [Clause.text, String.toList_append, List.append_assoc, toList_labels hc, words,
        List.intercalate_cons_of_ne_nil (labelWords_ne_nil hc)]
      simp
  | onWeekdays days =>
      rw [Clause.text, String.toList_append, List.append_assoc, toList_labels hc, words,
        List.intercalate_cons_of_ne_nil (labelWords_ne_nil hc)]
      simp

end Clause

/-! ### Sentences -/

section sentence

variable {cs cs' : List Clause}

/-- A sentence of clauses begins alike and goes on with their texts. -/
lemma sentence_of_ne_nil (hne : cs ≠ []) :
    sentence cs = "Runs " ++ ", ".intercalate (cs.map Clause.text) := by
  cases cs with
  | nil => exact absurd rfl hne
  | cons c cs => rfl

/-- A sentence is written as the words of its clauses, with spaces between them. One more comma is written at
the end, so that the last clause has the same words as it has in front of others. -/
lemma toList_sentence (hne : cs ≠ []) (hcs : ∀ c ∈ cs, c.IsProper) :
    (sentence cs).toList ++ [','] = [' '].intercalate ("Runs".toList :: cs.flatMap Clause.words) := by
  have hclauses : (", ".intercalate (cs.map Clause.text)).toList ++ [','] =
      [' '].intercalate (cs.flatMap Clause.words) :=
    calc (", ".intercalate (cs.map Clause.text)).toList ++ [',']
        = [' '].intercalate ((cs.map fun c => c.text.toList).map (· ++ [','])) := by
          rw [String.toList_intercalate, List.map_map]
          exact Text.intercalate_append_mark [','] [' '] (by simpa using hne)
      _ = [' '].intercalate ((cs.map Clause.words).map [' '].intercalate) := by
          rw [List.map_map, List.map_map]
          exact congrArg _ (List.map_congr_left fun c hc => Clause.toList_text (hcs c hc))
      _ = [' '].intercalate (cs.flatMap Clause.words) := by
          rw [Text.intercalate_flatten _ (by simpa using fun c _ => c.words_ne_nil), List.flatMap]
  have hwords : cs.flatMap Clause.words ≠ [] := by
    cases cs with
    | nil => exact absurd rfl hne
    | cons c cs => simp [c.words_ne_nil]
  rw [sentence_of_ne_nil hne, String.toList_append, List.append_assoc, hclauses,
    List.intercalate_cons_of_ne_nil hwords]
  rfl

/-- The first word of some clauses is no label. -/
lemma not_capital_of_mem_flatMap {w : List Char} (h : w ∈ (cs.flatMap Clause.words).head?) :
    ¬ IsCapital w := by
  cases cs with
  | nil => cases h
  | cons c cs =>
      rw [List.flatMap_cons, List.head?_append_of_ne_nil _ c.words_ne_nil] at h
      exact Clause.not_capital_of_mem_head? h

/-- **Clauses are known by their words.** -/
theorem flatMap_words_inj (hcs : ∀ c ∈ cs, c.IsProper) (hcs' : ∀ c ∈ cs', c.IsProper)
    (h : cs.flatMap Clause.words = cs'.flatMap Clause.words) : cs = cs' := by
  induction cs generalizing cs' with
  | nil =>
      cases cs' with
      | nil => rfl
      | cons c' cs' => simp [c'.words_ne_nil] at h
  | cons c cs ih =>
      cases cs' with
      | nil => simp [c.words_ne_nil] at h
      | cons c' cs' =>
          obtain ⟨hc, htail⟩ := List.forall_mem_cons.mp hcs
          obtain ⟨hc', htail'⟩ := List.forall_mem_cons.mp hcs'
          obtain ⟨rfl, hrest⟩ := Clause.words_append_inj hc hc'
            (fun _ => not_capital_of_mem_flatMap) (fun _ => not_capital_of_mem_flatMap) h
          rw [ih htail htail' hrest]

/-- The sentence of some clauses does not begin like the sentence of none. -/
lemma head?_sentence (hne : cs ≠ []) : (sentence cs).toList.head? = some 'R' := by
  cases cs with
  | nil => exact absurd rfl hne
  | cons c cs => simp [sentence]

/-- **A sentence tells its clauses.** -/
theorem sentence_inj (hne : cs ≠ []) (hne' : cs' ≠ []) (hcs : ∀ c ∈ cs, c.IsProper)
    (hcs' : ∀ c ∈ cs', c.IsProper) (h : sentence cs = sentence cs') : cs = cs' := by
  have hspace : ∀ {cs : List Clause}, (∀ c ∈ cs, c.IsProper) →
      ∀ w ∈ "Runs".toList :: cs.flatMap Clause.words, ' ' ∉ w := by
    intro cs hcs
    refine List.forall_mem_cons.mpr ⟨by decide, fun w hw => ?_⟩
    obtain ⟨c, hc, hw⟩ := List.mem_flatMap.mp hw
    exact (hcs c hc).no_space w hw
  have hpieces : ∀ {cs : List Clause}, cs ≠ [] → (∀ c ∈ cs, c.IsProper) →
      Text.pieces (· == ' ') ((sentence cs).toList ++ [',']) =
        "Runs".toList :: cs.flatMap Clause.words := by
    intro cs hne hcs
    exact Text.pieces_eq_iff.mpr ⟨by simp, hspace hcs, (toList_sentence hne hcs).symm⟩
  have hwords := hpieces hne hcs
  rw [h, hpieces hne' hcs'] at hwords
  exact flatMap_words_inj hcs hcs' (List.cons.inj hwords).2.symm

end sentence

/-! ### The clauses of an expression -/

/-- What a field that is nothing but a stepped star is made of. -/
lemma eq_of_wholeStep? {field step : List Char} (h : wholeStep? field = some step) :
    field = '*' :: '/' :: step := by
  unfold wholeStep? at h
  split at h
  · next ds =>
      rw [Option.ite_none_right_eq_some] at h
      obtain ⟨-, heq⟩ := h
      rw [Option.some.inj heq]
  · cases h

/-- Each clause is about the field in whose place it stands. -/
def InPlaces (ds : List Domain) (os : List (Option Clause)) : Prop :=
  List.Forall₂ (fun d o => ∀ c ∈ o, c.domain = d) ds os

section clauses

variable {ds : List Domain} {os os' : List (Option Clause)}

lemma InPlaces.domain_mem (h : InPlaces ds os) {c : Clause} (hc : c ∈ os.filterMap id) :
    c.domain ∈ ds := by
  induction h with
  | nil => simp at hc
  | @cons d o ds os ho _ ih =>
      cases o with
      | none => exact List.mem_cons_of_mem d (ih (by simpa using hc))
      | some c' =>
          rcases List.mem_cons.mp (hc : c ∈ c' :: os.filterMap id) with rfl | hc
          · exact List.mem_cons.mpr (Or.inl (ho c rfl))
          · exact List.mem_cons_of_mem d (ih hc)

/-- The clause about a field is the one that stands in the place of that field. -/
lemma InPlaces.mem_and_domain_iff (hds : ds.Nodup) (h : InPlaces ds os) {i : ℕ} {d : Domain}
    {o : Option Clause} (hd : ds[i]? = some d) (ho : os[i]? = some o) {c : Clause} :
    c ∈ os.filterMap id ∧ c.domain = d ↔ c ∈ o := by
  induction h generalizing i with
  | nil => cases hd
  | @cons d' o' ds os ho' hos ih =>
      obtain ⟨hd', hds⟩ := List.nodup_cons.mp hds
      have hmem : c ∈ (o' :: os).filterMap id ↔ c ∈ o' ∨ c ∈ os.filterMap id := by simp [eq_comm]
      rw [hmem]
      cases i with
      | zero =>
          obtain rfl : d' = d := Option.some.inj hd
          obtain rfl : o' = o := Option.some.inj ho
          refine ⟨?_, fun hc => ⟨Or.inl hc, ho' c hc⟩⟩
          rintro ⟨hc | hc, rfl⟩
          · exact hc
          · exact absurd (InPlaces.domain_mem hos hc) hd'
      | succ i =>
          rw [← ih hds hd ho]
          refine ⟨?_, fun hc => ⟨Or.inr hc.1, hc.2⟩⟩
          rintro ⟨hc | hc, rfl⟩
          · exact absurd (ho' c hc ▸ List.mem_of_getElem? hd) hd'
          · exact ⟨hc, rfl⟩

/-- The places of clauses are known when each is about its own field. -/
lemma InPlaces.filterMap_inj (hds : ds.Nodup) (h : InPlaces ds os) (h' : InPlaces ds os')
    (heq : os.filterMap id = os'.filterMap id) : os = os' := by
  induction h generalizing os' with
  | nil =>
      cases h'
      rfl
  | @cons d o ds os ho hos ih =>
      obtain ⟨hd, hds⟩ := List.nodup_cons.mp hds
      cases h' with
      | @cons _ o' _ os' ho' hos' =>
          -- A clause on one side only would be in a later place on the other side, about another field.
          cases o with
          | none =>
              cases o' with
              | none => rw [ih hds hos' (by simpa using heq)]
              | some c' =>
                  have hc' : c' ∈ os.filterMap id := by
                    rw [show os.filterMap id = c' :: os'.filterMap id by simpa using heq]
                    exact List.mem_cons_self
                  exact absurd (ho' c' rfl ▸ InPlaces.domain_mem hos hc') hd
          | some c =>
              cases o' with
              | none =>
                  have hc : c ∈ os'.filterMap id := by
                    rw [show os'.filterMap id = c :: os.filterMap id by simpa using heq.symm]
                    exact List.mem_cons_self
                  exact absurd (ho c rfl ▸ InPlaces.domain_mem hos' hc) hd
              | some c' =>
                  obtain ⟨rfl, hrest⟩ : c = c' ∧ os.filterMap id = os'.filterMap id := by
                    simpa using heq
                  rw [ih hds hos' hrest]

/-- A field is known by its clause, or the clause is known. -/
lemma clause?_inj {f f' : List Char} {c c' : Clause} (h : clause? f c = clause? f' c') :
    f = f' ∨ c = c' := by
  unfold clause? at h
  split at h
  · next hf =>
      split at h
      · next hf' => exact Or.inl (hf.trans hf'.symm)
      · cases h
  · split at h
    · cases h
    · exact Or.inr (Option.some.inj h)

variable {s s' : Schedule} {minute hour dayOfMonth month dayOfWeek : List Char}
  {minute' hour' dayOfMonth' month' dayOfWeek' : List Char}

/-- The clause of a field, unless it is a lone star, about a stepped star or else as it is. -/
lemma elim_wholeStep?_inj {f f' : List Char} {whole every : List Char → Clause}
    (hwhole : Function.Injective whole) (hevery : Function.Injective every)
    (hne : ∀ g g', whole g ≠ every g')
    (h : (wholeStep? f).elim (whole f) every = (wholeStep? f').elim (whole f') every) : f = f' := by
  cases hf : wholeStep? f with
  | none =>
      cases hf' : wholeStep? f' with
      | none => exact hwhole (by simpa [hf, hf'] using h)
      | some step' => exact absurd (by simpa [hf, hf'] using h) (hne f step')
  | some step =>
      cases hf' : wholeStep? f' with
      | none => exact absurd (by simpa [hf, hf'] using h.symm) (hne f' step)
      | some step' =>
          have hstep : step = step' := hevery (by simpa [hf, hf'] using h)
          rw [eq_of_wholeStep? hf, eq_of_wholeStep? hf', hstep]

/-- The clause of each field, in the place of that field. -/
def placedClauses (s : Schedule) (minute hour dayOfMonth month dayOfWeek : List Char) :
    List (Option Clause) :=
  [clause? minute ((wholeStep? minute).elim (.atMinute minute) .everyMinutes),
   clause? hour ((wholeStep? hour).elim (.atHour hour) .everyHours),
   clause? dayOfMonth (.onDay dayOfMonth), clause? month (.inMonths s.month),
   clause? dayOfWeek (.onWeekdays s.dayOfWeek)]

lemma inPlaces_placedClauses (s : Schedule)
    (minute hour dayOfMonth month dayOfWeek : List Char) :
    InPlaces Domain.all (placedClauses s minute hour dayOfMonth month dayOfWeek) := by
  have hplace : ∀ {d : Domain} {f : List Char} {c : Clause}, c.domain = d →
      ∀ x ∈ clause? f c, x.domain = d := by
    intro d f c hc x hx
    unfold clause? at hx
    split at hx
    · cases hx
    · cases hx
      exact hc
  refine .cons (hplace ?_) (.cons (hplace ?_) (.cons (hplace rfl) (.cons (hplace rfl)
    (.cons (hplace rfl) .nil))))
  · cases wholeStep? minute <;> rfl
  · cases wholeStep? hour <;> rfl

/-- **The clauses of an expression tell its fields**, or the sets for which they stand. -/
theorem clauses_inj
    (h : clauses s minute hour dayOfMonth month dayOfWeek =
      clauses s' minute' hour' dayOfMonth' month' dayOfWeek') :
    minute = minute' ∧ hour = hour' ∧ dayOfMonth = dayOfMonth' ∧
      (month = month' ∨ s.month = s'.month) ∧
        (dayOfWeek = dayOfWeek' ∨ s.dayOfWeek = s'.dayOfWeek) := by
  have hlist := InPlaces.filterMap_inj (by decide)
    (inPlaces_placedClauses s minute hour dayOfMonth month dayOfWeek)
    (inPlaces_placedClauses s' minute' hour' dayOfMonth' month' dayOfWeek') h
  simp only [placedClauses, List.cons.injEq, and_true] at hlist
  obtain ⟨h₁, h₂, h₃, h₄, h₅⟩ := hlist
  refine ⟨?_, ?_, ?_, ?_, ?_⟩
  · exact (clause?_inj h₁).elim id (elim_wholeStep?_inj (fun _ _ => Clause.atMinute.inj)
      (fun _ _ => Clause.everyMinutes.inj) (by simp))
  · exact (clause?_inj h₂).elim id (elim_wholeStep?_inj (fun _ _ => Clause.atHour.inj)
      (fun _ _ => Clause.everyHours.inj) (by simp))
  · exact (clause?_inj h₃).elim id Clause.onDay.inj
  · exact (clause?_inj h₄).imp id Clause.inMonths.inj
  · exact (clause?_inj h₅).imp id Clause.onWeekdays.inj

/-- The clauses of an expression are proper. -/
lemma isProper_of_mem_clauses (hs : s.InDomains)
    (hwords : ∀ w ∈ [minute, hour, dayOfMonth, month, dayOfWeek], ' ' ∉ w) :
    ∀ c ∈ clauses s minute hour dayOfMonth month dayOfWeek, c.IsProper := by
  have hproper : ∀ {f : List Char} {c : Clause}, c.IsProper → ∀ x ∈ clause? f c, x.IsProper := by
    intro f c hc x hx
    unfold clause? at hx
    split at hx
    · cases hx
    · cases hx
      exact hc
  have hwhole : ∀ (whole every : List Char → Clause) {f : List Char}, ' ' ∉ f →
      (∀ g, ' ' ∉ g → (whole g).IsProper) → (∀ g, ' ' ∉ g → (every g).IsProper) →
        ((wholeStep? f).elim (whole f) every).IsProper := by
    intro whole every f hf hwhole hevery
    cases hstep : wholeStep? f with
    | none => exact hwhole f hf
    | some step =>
        rw [eq_of_wholeStep? hstep] at hf
        exact hevery step fun h => hf (List.mem_cons_of_mem _ (List.mem_cons_of_mem _ h))
  simp only [List.forall_mem_cons] at hwords
  obtain ⟨h₁, h₂, h₃, h₄, h₅, -⟩ := hwords
  intro c hc
  simp only [clauses, List.mem_filterMap, List.mem_cons, List.not_mem_nil, or_false, id_eq] at hc
  obtain ⟨o, (rfl | rfl | rfl | rfl | rfl), ho⟩ := hc
  · exact hproper (hwhole .atMinute .everyMinutes h₁ (fun _ h => h) (fun _ h => h)) c ho
  · exact hproper (hwhole .atHour .everyHours h₂ (fun _ h => h) (fun _ h => h)) c ho
  · exact hproper (c := .onDay dayOfMonth) h₃ c ho
  · exact hproper (c := .inMonths s.month) hs.month c ho
  · exact hproper (c := .onWeekdays s.dayOfWeek) hs.dayOfWeek c ho

/-- Only five lone stars make no clause. -/
lemma eq_star_of_clauses_eq_nil (h : clauses s minute hour dayOfMonth month dayOfWeek = []) :
    [minute, hour, dayOfMonth, month, dayOfWeek] = List.replicate 5 ['*'] := by
  have hnone : ∀ {f : List Char} {c : Clause}, clause? f c = none → f = ['*'] := by
    intro f c hf
    by_contra hne
    rw [clause?, if_neg hne] at hf
    cases hf
  simp only [clauses, List.filterMap_eq_nil_iff, List.forall_mem_cons, id_eq] at h
  obtain ⟨h₁, h₂, h₃, h₄, h₅, -⟩ := h
  rw [hnone h₁, hnone h₂, hnone h₃, hnone h₄, hnone h₅]
  rfl

end clauses

end CronPreview
