/-
The three readers of a text: the one that parses it, the one that checks it and the one that describes it.

* `Cron.not_isCapital_respaced`, `Cron.isCapital_describe`: an expression does not begin like its description;
* `Cron.Answer`, `Cron.Answers`: what the three readers may say of a text;
* `Cron.answers_of_parse`, `Cron.answers_of_defect`, `Cron.answers_of_longNumeral`: the outcome of parsing decides
  what all of them say;
* `Cron.readers_agree`: they say the same of every text, and one numeral is too long for all of them exactly when it
  is the first fault of the text.
-/
import CronPreview.Proofs.Description.Decoding
import CronPreview.Proofs.Schedule.Attribution

namespace CronPreview

/-! ### How an expression begins -/

lemma isCapital_append_iff {w : List Char} (hw : w ≠ []) (v : List Char) :
    IsCapital (w ++ v) ↔ IsCapital w := by
  rw [IsCapital, IsCapital, List.head?_append_of_ne_nil w hw]

/-- No digit is a capital letter. -/
lemma IsDigits.not_isCapital {ds : List Char} (h : IsDigits ds) : ¬ IsCapital ds := by
  cases ds with
  | nil => exact absurd rfl h.ne_nil
  | cons c ds =>
      have hdigit := h.digits c List.mem_cons_self
      exact forall_ascii (P := fun c => c.isDigit = true → ¬ c.isUpper = true) (by decide +kernel)
        (toNat_lt_of_isDigit hdigit) hdigit

variable {d : Domain}

/-- Where values have no names, a span begins with a star or a digit. -/
lemma IsSpan.not_isCapital (hd : d.names = none) {cs : List Char} {σ : Span ℤ} (h : IsSpan d cs σ) :
    ¬ IsCapital cs := by
  have hvalue : ∀ {cs v}, IsValue d cs v → cs ≠ [] ∧ ¬ IsCapital cs := by
    intro cs v hv
    cases hv with
    | numeral hdigits => exact ⟨hdigits.ne_nil, hdigits.not_isCapital⟩
    | name ht _ _ =>
        rw [hd] at ht
        cases ht
  cases h with
  | all => decide
  | one hv _ => exact (hvalue hv).2
  | between hv _ _ _ =>
      rw [isCapital_append_iff (hvalue hv).1]
      exact (hvalue hv).2

/-- Where values have no names, a field begins with a star or a digit. -/
lemma IsField.not_isCapital (hplain : d.HasPlainNames) (hd : d.names = none) {cs : List Char}
    {is : List (Span ℤ × ℕ)} (h : IsField d cs is) : ¬ IsCapital cs := by
  have hitem : ∀ {cs i}, IsItem d cs i → ¬ IsCapital cs := by
    intro cs i hi
    cases hi with
    | @mk span step σ n hspan hstep =>
        have hne : span ≠ [] := by
          have := (IsItem.mk hspan .none).ne_nil hplain
          rwa [List.append_nil] at this
        rw [isCapital_append_iff hne]
        exact hspan.not_isCapital hd
  cases h with
  | last hi => exact hitem hi
  | cons hi _ =>
      rw [isCapital_append_iff (hi.ne_nil hplain)]
      exact hitem hi

namespace Cron

variable {text : String} {c : Cron}

/-- An expression does not begin with a capital letter. -/
lemma not_isCapital_respaced (hc : parse text = .ok c) : ¬ IsCapital (Text.respaced text.toList) := by
  obtain ⟨-, f₁, f₂, f₃, f₄, f₅, hspread, ⟨is, hfield, -⟩, -⟩ := parse_eq_ok_iff.mp hc
  have hne : f₁ ≠ [] := (hspread.isWord f₁ List.mem_cons_self).ne_nil
  rw [Text.respaced, Text.words_of_spread hspread, List.intercalate_cons_cons, List.append_assoc,
    isCapital_append_iff hne]
  exact hfield.not_isCapital (Domain.hasPlainNames_of_mem_all (by decide)) rfl

/-- The description of an expression begins with a capital letter. -/
lemma isCapital_describe {description : String} (hc : parse text = .ok c)
    (hdescribe : describe text = .ok description) : IsCapital description.toList := by
  rw [describe_of_parse hc, Except.ok.injEq] at hdescribe
  cases hlookup : commonPatterns.lookup (String.ofList (Text.respaced text.toList)) with
  | some common =>
      have hcapital : ∀ p ∈ commonPatterns, IsCapital p.2.toList := by decide
      rw [hlookup, Option.getD_some] at hdescribe
      rw [← hdescribe]
      exact hcapital _ (mem_commonPatterns hlookup)
  | none =>
      obtain ⟨f₁, f₂, f₃, f₄, f₅, hwords, -, hne, -⟩ := clauses_of_lookup_eq_none hc hlookup
      rw [hlookup, Option.getD_none, hwords, sentenceOf] at hdescribe
      rw [← hdescribe, IsCapital, head?_sentence hne]
      decide

/-! ### What is said of a text -/

/-- Every common expression can be read. -/
lemma exists_parse_of_lookup {description : String} (h : commonPatterns.lookup text = some description) :
    ∃ c, parse text = .ok c := by
  have hread : ∀ p ∈ commonPatterns, (parse p.1).isOk = true := by decide +kernel
  have hok := hread _ (mem_commonPatterns h)
  cases hparse : parse text with
  | ok c => exact ⟨c, rfl⟩
  | error f =>
      rw [hparse] at hok
      cases hok

/-- The ways in which the readers of a text answer. -/
inductive Answer where
  /-- It is an expression. -/
  | accepted
  /-- It has a defect. -/
  | rejected
  /-- A numeral in it is too long to tell. -/
  | overlong (n : LongNumeral)

/-- What the parser, the checker and the describer say of a text in each of these ways. The words of the text with
single spaces between them stand for it. -/
def Answers (text : String) : Answer → Prop
  | .accepted => (∃ c, parse text = .ok c) ∧ check text = .ok true ∧
      ∃ d, describe text = .ok d ∧ d ≠ String.ofList (Text.respaced text.toList)
  | .rejected => (∃ defect, parse text = .error (.defect defect)) ∧ check text = .ok false ∧
      describe text = .ok (String.ofList (Text.respaced text.toList))
  | .overlong n => parse text = .error (.longNumeral n) ∧ check text = .error n ∧
      describe text = .error n

lemma answers_of_parse (hc : parse text = .ok c) : Answers text .accepted := by
  refine ⟨⟨c, hc⟩, by rw [check, hc], _, describe_of_parse hc, ?_⟩
  intro hsame
  have hcapital := isCapital_describe hc (describe_of_parse hc)
  rw [hsame, String.toList_ofList] at hcapital
  exact not_isCapital_respaced hc hcapital

/-- A text with a fault is described as its words are read, as it is not a common expression. -/
lemma describe_of_error {f : ParseError} (hf : parse text = .error f) :
    ∃ f', SameFault text (String.ofList (Text.respaced text.toList)) f f' ∧
      parse (String.ofList (Text.respaced text.toList)) = .error f' ∧
        commonPatterns.lookup (String.ofList (Text.respaced text.toList)) = none := by
  have hwords : Text.words (String.ofList (Text.respaced text.toList)).toList =
      Text.words text.toList := by
    rw [String.toList_ofList, Text.words_respaced]
  have hrelated := parse_related_of_words_eq hwords
  generalize hspaced : parse (String.ofList (Text.respaced text.toList)) = outcome at hrelated
  rw [hf] at hrelated
  cases hrelated with
  | @error _ f' hsame =>
      refine ⟨f', hsame, rfl, ?_⟩
      by_contra hcommon
      obtain ⟨description, hlookup⟩ := Option.ne_none_iff_exists'.mp hcommon
      obtain ⟨c, hc⟩ := exists_parse_of_lookup hlookup
      rw [hspaced] at hc
      cases hc

lemma answers_of_defect {defect : Defect} (hf : parse text = .error (.defect defect)) :
    Answers text .rejected := by
  obtain ⟨f', hsame, hspaced, hlookup⟩ := describe_of_error hf
  refine ⟨⟨defect, hf⟩, by rw [check, hf], ?_⟩
  rw [describe, hlookup, hspaced]
  cases hsame with
  | refl => rfl
  | fieldCount => rfl

lemma answers_of_longNumeral {n : LongNumeral} (hf : parse text = .error (.longNumeral n)) :
    Answers text (.overlong n) := by
  obtain ⟨f', hsame, hspaced, hlookup⟩ := describe_of_error hf
  refine ⟨hf, by rw [check, hf], ?_⟩
  rw [describe, hlookup, hspaced]
  cases hsame
  rfl

/-- A numeral that is too long is what is wrong with a text when it is the first fault. -/
lemma parse_eq_longNumeral_iff {n : LongNumeral} :
    parse text = .error (.longNumeral n) ↔
      ∃ fields items d item, FirstFault text.toList fields items d item (.longNumeral n) := by
  rw [parse_eq_error_iff]
  refine ⟨?_, fun ⟨fields, items, d, item, hfault⟩ =>
    Or.inr ⟨fields, items, d, item, _, hfault, rfl⟩⟩
  rintro (⟨-, hf⟩ | ⟨fields, items, d, item, e, hfault, hf⟩)
  · cases hf
  · cases e with
    | longNumeral m =>
        cases hf
        exact ⟨fields, items, d, item, hfault⟩
    | _ => cases hf

/-- **The readers of a text agree.** Either it is an expression for all of them, and its description is another
text. Or it has a defect, the check says no, and the text describes itself. Or the same numeral is too long for
all of them; this happens exactly when the text has five fields and a numeral that is too long is the first fault in
it, reading its items from left to right and each item from its step to its first value and its last value. -/
theorem readers_agree (text : String) :
    (∃! a, Answers text a) ∧ ∀ n, Answers text (.overlong n) ↔
      ∃ fields items d item, FirstFault text.toList fields items d item (.longNumeral n) := by
  have hunique : ∀ {a b}, Answers text a → Answers text b → a = b := by
    intro a b ha hb
    -- the check alone tells the three answers apart
    cases a <;> cases b <;> cases ha.2.1.symm.trans hb.2.1 <;> rfl
  refine ⟨?_, fun n => ⟨fun h => parse_eq_longNumeral_iff.mp h.1,
    fun h => answers_of_longNumeral (parse_eq_longNumeral_iff.mpr h)⟩⟩
  cases hparse : parse text with
  | ok c => exact ⟨.accepted, answers_of_parse hparse, fun b hb => hunique hb (answers_of_parse hparse)⟩
  | error f =>
      cases f with
      | defect defect =>
          exact ⟨.rejected, answers_of_defect hparse,
            fun b hb => hunique hb (answers_of_defect hparse)⟩
      | longNumeral n =>
          exact ⟨.overlong n, answers_of_longNumeral hparse,
            fun b hb => hunique hb (answers_of_longNumeral hparse)⟩

end Cron

end CronPreview
