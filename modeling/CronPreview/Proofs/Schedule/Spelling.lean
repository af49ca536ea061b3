/-
The spelling of values in an expression.

* `Cron.Respelled`: two texts that spell one value of an expression in two ways;
* `Cron.SameOutcome`, `Cron.sameOutcome_of_fields`: expressions whose fields are read alike have the same schedule, or
  the items at the same place of the fields at the same place are to blame, for the same fault;
* `Cron.spelling_makes_no_difference`: what this means for names in any letter case, leading zeros, and the two
  numbers of Sunday.
-/
import CronPreview.Proofs.Field.Spelling
import CronPreview.Proofs.Schedule.Attribution

namespace CronPreview

open Except (LiftRel)

lemma Schedule.fieldSets_injective {s s' : Schedule} (h : s.fieldSets = s'.fieldSets) : s = s' := by
  cases s
  cases s'
  simpa [Schedule.fieldSets] using h

/-- Items with commas between them are a word, unless there is nothing in them. -/
lemma isWord_intercalate {ws : List (List Char)} {w : List Char} (hw : w ∈ ws) (hne : w ≠ [])
    (hchars : ∀ w ∈ ws, ∀ c ∈ w, IsItemChar c) : Text.IsWord ([','].intercalate ws) := by
  constructor
  · intro hempty
    have hpieces : Text.pieces (· == ',') [] = ws :=
      Text.pieces_eq_iff.mpr ⟨List.ne_nil_of_mem hw, fun w hw hmem => (hchars w hw ',' hmem).1 rfl, hempty⟩
    rw [← hpieces] at hw
    exact hne (List.mem_singleton.mp hw)
  · clear hw hne
    induction ws with
    | nil => simp
    | cons w ws ih =>
        obtain ⟨hw, hws⟩ := List.forall_mem_cons.mp hchars
        cases ws with
        | nil =>
            rw [List.intercalate_singleton]
            exact fun c hc => (hw c hc).2
        | cons v ws =>
            rw [List.intercalate_cons_cons, List.forall_mem_append, List.forall_mem_append]
            exact ⟨⟨fun c hc => (hw c hc).2, List.forall_mem_singleton.mpr rfl⟩, ih hws⟩

namespace Cron

variable {text text' : String} {fields laterFields : List (List Char)} {d : Domain} {f f' : List Char}

/-! ### Fields that are read alike -/

/-- Neither text has five fields, or the items at the same place of both are to blame, for the same
fault. -/
inductive FaultsAlike (text text' : String) : ParseError → ParseError → Prop
  | fieldCount :
      FaultsAlike text text' (.defect (.wrongFieldCount text)) (.defect (.wrongFieldCount text'))
  | item {fields fields' items items' : List (List Char)} {d : Domain} {item item' : List Char}
      {e : ItemError} :
      FirstFault text.toList fields items d item e → FirstFault text'.toList fields' items' d item' e →
        fields.length = fields'.length → items.length = items'.length →
          FaultsAlike text text' (e.within item) (e.within item')

/-- Faults that are alike are of the same kind. -/
lemma FaultsAlike.kind_eq {e e' : ParseError} (h : FaultsAlike text text' e e') :
    (Failure.parse e).kind? = (Failure.parse e').kind? := by
  cases h with
  | fieldCount => rfl
  | @item _ _ _ _ _ _ _ e => cases e <;> rfl

/-- The two texts are read as expressions with the same schedule, or their faults are alike. -/
def SameOutcome (text text' : String) : Prop :=
  LiftRel (FaultsAlike text text') (fun c c' => c.schedule = c'.schedule) (parse text) (parse text')

/-- Two fields at the same place are read alike. -/
def ReadAlike (p q : Domain × List Char) : Prop :=
  LiftRel (fun e e' => p.1 = q.1 ∧ Field.SameFault p.1 p.2 q.2 e e') Eq (Field.parse p.1 p.2)
    (Field.parse q.1 q.2)

/-- **Expressions whose fields are read alike have the same schedule, or faults at the same place.** -/
theorem sameOutcome_of_fields {ws ws' : List (List Char)} (hws : Text.Spread text.toList ws)
    (hws' : Text.Spread text'.toList ws') (hlength : ws.length = 5) (hlength' : ws'.length = 5)
    (h : List.Forall₂ ReadAlike (Domain.all.zip ws) (Domain.all.zip ws')) : SameOutcome text text' := by
  have hfields := LiftRel.mapM h
  rw [← map_fieldSets_parse hws hlength, ← map_fieldSets_parse hws' hlength', LiftRel.map_iff] at hfields
  refine hfields.imp ?_ fun c c' hsets => ?_
  · rintro _ _ ⟨before, ⟨d, f⟩, after, before', ⟨d', f'⟩, after', hzip, hzip', hcount, hgood, hgood', rfl,
      items, items', item, item', e, hfault, hfault', hitems, rfl, rfl⟩
    have hfirst := firstFault_of_zip hws hlength hzip hgood hfault
    have hfirst' := firstFault_of_zip hws' hlength' hzip' hgood' hfault'
    exact .item hfirst hfirst' (by simpa using hcount) hitems
  · rw [List.forall₂_eq_eq_eq] at hsets
    exact Schedule.fieldSets_injective hsets

/-- If one field of an expression is written in another way and still read alike, so is the expression. -/
lemma sameOutcome_of_field (hws : Text.Spread text.toList (fields ++ f :: laterFields))
    (hws' : Text.Spread text'.toList (fields ++ f' :: laterFields))
    (hd : Domain.all[fields.length]? = some d)
    (h : List.Forall₂ (Item.SameValues d) (Text.pieces (· == ',') f) (Text.pieces (· == ',') f')) :
    SameOutcome text text' := by
  have hsame : (fields ++ f' :: laterFields).length = (fields ++ f :: laterFields).length := by simp
  by_cases hlength : (fields ++ f :: laterFields).length = 5
  · refine sameOutcome_of_fields hws hws' hlength (hsame.trans hlength) ?_
    have hplain : ∀ d ∈ Domain.all, d.HasPlainNames := fun d hd =>
      Domain.hasPlainNames_of_mem_all hd
    have hself : ∀ {domains : List Domain} {gs : List (List Char)}, domains ⊆ Domain.all →
        gs ⊆ fields ++ f :: laterFields →
          List.Forall₂ ReadAlike (domains.zip gs) (domains.zip gs) := by
      intro domains gs hdomains hgs
      refine List.forall₂_same.mpr fun p hp => ?_
      obtain ⟨hp₁, hp₂⟩ := List.of_mem_zip hp
      have hword := hws.isWord _ (hgs hp₂)
      exact (Field.parse_related (hplain _ (hdomains hp₁)) hword hword
        (List.forall₂_same.mpr fun w _ => .refl _ w)).imp (fun _ _ he => ⟨rfl, he⟩) fun _ _ => id
    have hfield := Field.parse_related (hplain d (List.mem_of_getElem? hd)) (hws.isWord f (by simp))
      (hws'.isWord f' (by simp)) h
    rw [zip_fields hd, zip_fields hd]
    refine List.rel_append (hself (List.take_subset _ _) (by simp)) (.cons ?_ (hself
      (List.drop_subset _ _) fun w hw => by simp [hw]))
    exact hfield.imp (fun _ _ he => ⟨rfl, he⟩) fun _ _ => id
  · rw [SameOutcome, parse_of_length_ne (by rwa [Text.words_of_spread hws]),
      parse_of_length_ne (by rwa [Text.words_of_spread hws', hsame])]
    exact .error .fieldCount

/-! ### Spellings -/

/-- The texts are the same but for one comma item of one field, and there they spell one of its values in two
ways. What stands before the field is `front`, and the fields in it are counted to find its domain. -/
def Respelled (text text' : List Char) : Prop :=
  ∃ front items d item item' laterItems back,
    text = front ++ ([','].intercalate (items ++ item :: laterItems) ++ back) ∧
      text' = front ++ ([','].intercalate (items ++ item' :: laterItems) ++ back) ∧
        (∀ b ∈ front.getLast?, Text.isBlank b = true) ∧ (∀ b ∈ back.head?, Text.isBlank b = true) ∧
          (∀ w ∈ items ++ item :: laterItems, ∀ c ∈ w, IsItemChar c) ∧
            Domain.all[(Text.words front).length]? = some d ∧ Item.Respelled d item item'

/-- The fields of a text and the items of one of them, when the field stands between blanks. -/
lemma spread_of_items {text front back : List Char} {ws : List (List Char)} {w : List Char}
    (hfront : ∀ b ∈ front.getLast?, Text.isBlank b = true)
    (hback : ∀ b ∈ back.head?, Text.isBlank b = true) (hw : w ∈ ws) (hne : w ≠ [])
    (hchars : ∀ w ∈ ws, ∀ c ∈ w, IsItemChar c)
    (htext : text = front ++ ([','].intercalate ws ++ back)) :
    Text.Spread text (Text.words front ++ [','].intercalate ws :: Text.words back) ∧
      Text.pieces (· == ',') ([','].intercalate ws) = ws := by
  refine ⟨Text.words_eq_iff.mp ?_, Text.pieces_eq_iff.mpr ⟨List.ne_nil_of_mem hw, ?_, rfl⟩⟩
  · rw [htext, Text.words_append_word (isWord_intercalate hw hne hchars) hfront hback]
  · exact fun v hv hmem => (hchars v hv ',' hmem).1 rfl

/-- **The spelling of a value makes no difference** to what an expression is read as, nor to its fault. -/
theorem sameOutcome_of_respelled (h : Respelled text.toList text'.toList) : SameOutcome text text' := by
  obtain ⟨front, items, d, item, item', laterItems, back, htext, htext', hfront, hback, hchars, hd,
    hitem⟩ := h
  have hplain := Domain.hasPlainNames_of_mem_all (List.mem_of_getElem? hd)
  have hparts := hchars
  rw [List.forall_mem_append, List.forall_mem_cons] at hparts
  obtain ⟨hbefore, hmiddle, hafter⟩ := hparts
  obtain ⟨hne', hmiddle'⟩ := hitem.itemChars hplain hmiddle
  obtain ⟨hne, -⟩ := hitem.symm.itemChars hplain hmiddle'
  have hchars' : ∀ w ∈ items ++ item' :: laterItems, ∀ c ∈ w, IsItemChar c :=
    List.forall_mem_append.mpr ⟨hbefore, List.forall_mem_cons.mpr ⟨hmiddle', hafter⟩⟩
  obtain ⟨hws, hpieces⟩ := spread_of_items hfront hback (by simp) hne hchars htext
  obtain ⟨hws', hpieces'⟩ := spread_of_items hfront hback (by simp) hne' hchars' htext'
  refine sameOutcome_of_field hws hws' hd ?_
  rw [hpieces, hpieces']
  have hself : ∀ ws : List (List Char), List.Forall₂ (Item.SameValues d) ws ws := fun ws =>
    List.forall₂_same.mpr fun w _ => .refl d w
  exact List.rel_append (hself items) (.cons (hitem.sameValues hplain) (hself laterItems))

/-- **Only the values count, not their spelling.** An expression in which one value is spelled in another way has
the same schedule; or else neither text has five fields, or the items at the same place are to blame, for a fault of
the same kind. The value may be a lone one or either end of a range, in any item of any field. It is spelled by its
names in any letter case and by its numerals, with as many leading zeros as a numeral may have; and Sunday is 0, 7
and `sun` alike. -/
theorem spelling_makes_no_difference :
    (∀ text text' : String, Respelled text.toList text'.toList → SameOutcome text text') ∧
    (∀ text text' e e', FaultsAlike text text' e e' →
      (Failure.parse e).kind? = (Failure.parse e').kind?) ∧
    (∀ d ∈ Domain.all, ∀ cs ds v w, IsValue d cs v → IsValue d ds w → d.Same v w →
      Token.SameValue d cs ds ∧ cs.head? ≠ some '-' ∧ ds.head? ≠ some '-') ∧
    (∀ d k ds, IsDigits ds → k + ds.length ≤ 4300 →
      IsValue d (List.replicate k '0' ++ ds) (Numeral.value ds)) ∧
    ∀ s ∈ ["0", "7", "sun"], ∀ t ∈ ["0", "7", "sun"],
      Token.SameValue .dayOfWeek s.toList t.toList := by
  have hhead : ∀ {d cs v}, d ∈ Domain.all → IsValue d cs v → cs.head? ≠ some '-' :=
    fun hd hv h => (hv.uncut (Domain.hasPlainNames_of_mem_all hd)).1 (List.mem_of_head? h)
  refine ⟨fun text text' => sameOutcome_of_respelled, fun text text' e e' => FaultsAlike.kind_eq, ?_,
    fun d k ds => IsValue.zeros_append d, fun s hs t ht => sameValue_of_sunday hs ht⟩
  intro d hd cs ds v w hv hw hsame
  exact ⟨hv.sameValue (Domain.hasPlainNames_of_mem_all hd) hw hsame, hhead hd hv, hhead hd hw⟩

/-- The last day of a range from Friday may be spelled with a name and capitals, or as a number with a zero. -/
theorem spelling_makes_no_difference_weekend :
    ∃ c c', parse "0 0 * * 5-sUn" = .ok c ∧ parse "0 0 * * 5-07" = .ok c' ∧ c.schedule = c'.schedule := by
  have hzero : IsValue .dayOfWeek ['0', '7'] 7 :=
    spelling_makes_no_difference.2.2.2.1 .dayOfWeek 1 ['7'] (isDigits_singleton rfl) (by decide)
  have hname : IsValue .dayOfWeek ['s', 'U', 'n'] 0 := .name (w := "sun") rfl rfl rfl
  have hsame : Token.SameValue .dayOfWeek ['s', 'U', 'n'] ['0', '7'] :=
    (spelling_makes_no_difference.2.2.1 .dayOfWeek (by decide) _ _ 0 7 hname hzero
      (Or.inr ⟨rfl, Or.inl ⟨rfl, rfl⟩⟩)).1
  have hitem : Item.Respelled .dayOfWeek "5-sUn".toList "5-07".toList :=
    @Item.Respelled.last _ ['5'] _ _ [] (by decide) (by decide) hsame (by simp)
  have hchars : ∀ c ∈ "5-sUn".toList, IsItemChar c := by
    have hall : ("5-sUn".toList.all fun c => decide (IsItemChar c)) = true := by decide
    simpa only [List.all_eq_true, decide_eq_true_eq] using hall
  have hblank : ∀ b ∈ "0 0 * * ".toList.getLast?, Text.isBlank b = true := by
    rintro b ⟨⟩
    rfl
  have hrespelled : Respelled "0 0 * * 5-sUn".toList "0 0 * * 5-07".toList :=
    ⟨"0 0 * * ".toList, [], .dayOfWeek, "5-sUn".toList, "5-07".toList, [], [], rfl, rfl, hblank, by simp,
      List.forall_mem_singleton.mpr hchars, rfl, hitem⟩
  have hparse := spelling_makes_no_difference.1 _ _ hrespelled
  obtain ⟨c, hc⟩ : ∃ c, parse "0 0 * * 5-sUn" = .ok c := ⟨_, rfl⟩
  obtain ⟨c', hc'⟩ : ∃ c', parse "0 0 * * 5-07" = .ok c' := ⟨_, rfl⟩
  rw [SameOutcome, hc, hc'] at hparse
  cases hparse with
  | ok hschedule => exact ⟨c, c', hc, hc', hschedule⟩

end Cron

end CronPreview
