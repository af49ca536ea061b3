/-
Which part of an expression is to blame, when it cannot be read.

* `Cron.HasItem`, `Cron.FirstFault`: an item in its place, and the first item with a fault;
* `Cron.map_fieldSets_parse`: the sets of an expression are read one after the other, each in its domain;
* `Cron.parse_of_firstFault`: the first item with a fault decides, whatever stands behind it;
* `Cron.parse_eq_error_iff`: an expression that cannot be read does not have five fields, or it has a
  first item with a fault;
* `Cron.kind_mem_of_parse`, `Cron.length_of_longNumeral`: no field of an expression is ever missing, and
  only a long expression has a numeral that is too long;
* `Cron.parse_blames_first_fault`: all of this, and what is told about the item.
-/
import CronPreview.Failure
import CronPreview.Proofs.Field.Faults
import CronPreview.Proofs.Schedule.Grammar

namespace CronPreview.Cron

variable {text : String} {fields items : List (List Char)} {d : Domain} {item : List Char}
  {e : ItemError} {f : ParseError}

/-! ### Items in their places -/

/-- The text has five fields, and `item` is a comma item of one of them: the fields before it are
`fields`, and the items before it in its own field, which has the domain `d`, are `items`. -/
def HasItem (text : List Char) (fields items : List (List Char)) (d : Domain) (item : List Char) :
    Prop :=
  ∃ laterItems laterFields,
    Text.Spread text (fields ++ [','].intercalate (items ++ item :: laterItems) :: laterFields) ∧
      (∀ w ∈ items ++ item :: laterItems, ',' ∉ w) ∧
        Domain.all[fields.length]? = some d ∧ fields.length + 1 + laterFields.length = 5

/-- The item is the first one with a fault: the fields before its own can be read, and so can the items
before it in its field. -/
structure FirstFault (text : List Char) (fields items : List (List Char)) (d : Domain)
    (item : List Char) (e : ItemError) : Prop where
  hasItem : HasItem text fields items d item
  fields_good : List.Forall₂ (fun d cs => ∃ is, IsField d cs is) (Domain.all.take fields.length) fields
  items_good : ∀ w ∈ items, ∃ i, IsItem d w i
  fault : ItemFault d item e

/-- The error is of this kind and about the item, and its message is a sentence that ends with it. -/
structure Blames (f : ParseError) (kind : ErrorKind) (sentence : String) (item : List Char) :
    Prop where
  kind : (Failure.parse f).kind? = some kind
  token : (Failure.parse f).token? = some (String.ofList item)
  message : (Failure.parse f).message = sentence ++ String.ofList item

/-! ### The first field that cannot be read -/

/-- The fields are read one after the other, each in its domain. -/
lemma map_fieldSets_parse {ws : List (List Char)} (hws : Text.Spread text.toList ws)
    (hlength : ws.length = 5) :
    (parse text).map (fun c => c.schedule.fieldSets) =
      (Domain.all.zip ws).mapM fun p => Field.parse p.1 p.2 := by
  match ws, hlength with
  | [f₁, f₂, f₃, f₄, f₅], _ =>
    rw [parse, Text.words_of_spread hws]
    simp only [parseFields, Domain.all, List.zip_cons_cons, List.zip_nil_right, List.mapM_cons,
      List.mapM_nil]
    cases Field.parse .minute f₁ with
    | error f => rfl
    | ok s₁ =>
      cases Field.parse .hour f₂ with
      | error f => rfl
      | ok s₂ =>
        cases Field.parse .dayOfMonth f₃ with
        | error f => rfl
        | ok s₃ =>
          cases Field.parse .month f₄ with
          | error f => rfl
          | ok s₄ => cases Field.parse .dayOfWeek f₅ <;> rfl

/-- An expression fails with the first field that cannot be read. -/
lemma parse_eq_error_iff_mapM {ws : List (List Char)} (hws : Text.Spread text.toList ws)
    (hlength : ws.length = 5) :
    parse text = .error f ↔
      (Domain.all.zip ws).mapM (fun p => Field.parse p.1 p.2) = .error f := by
  rw [← map_fieldSets_parse hws hlength, Except.map_eq_error_iff]

/-- The field behind some fields has the domain behind theirs. -/
lemma zip_fields {domains : List Domain} {cs : List Char} {laterFields : List (List Char)}
    (hd : domains[fields.length]? = some d) :
    domains.zip (fields ++ cs :: laterFields) =
      (domains.take fields.length).zip fields ++
        (d, cs) :: (domains.drop (fields.length + 1)).zip laterFields := by
  obtain ⟨hlt, hget⟩ := List.getElem?_eq_some_iff.mp hd
  have hdomains : domains =
      domains.take fields.length ++ d :: domains.drop (fields.length + 1) := by
    rw [← hget, List.getElem_cons_drop, List.take_append_drop]
  have hzip : (domains.take fields.length).length = fields.length := by
    rw [List.length_take]
    omega
  conv_lhs => rw [hdomains]
  rw [List.zip_append hzip, List.zip_cons_cons]

/-- A field can be read when it is one of the grammar. -/
lemma exists_parse_iff {cs : List Char} (hd : d.HasPlainNames) (hcs : Text.IsWord cs) :
    (∃ s, Field.parse d cs = .ok s) ↔ ∃ is, IsField d cs is := by
  simp only [Field.parse_eq_ok_iff hd hcs]
  constructor
  · rintro ⟨s, is, his, -⟩
    exact ⟨is, his⟩
  · rintro ⟨is, his⟩
    exact ⟨_, is, his, fun x => Field.mem_ofList_values his⟩

/-- **The first item with a fault decides**, whatever stands behind it. -/
theorem parse_of_firstFault (h : FirstFault text.toList fields items d item e) {other : String}
    (hother : HasItem other.toList fields items d item) :
    parse other = .error (e.within item) := by
  obtain ⟨laterItems, laterFields, hspread, hcomma, hd, hlength⟩ := hother
  have hwords := hspread.isWord
  have hmem : d ∈ Domain.all := List.mem_of_getElem? hd
  have hcount : (fields ++ [','].intercalate (items ++ item :: laterItems) :: laterFields).length = 5 := by
    rw [List.length_append, List.length_cons]
    omega
  rw [parse_eq_error_iff_mapM hspread hcount, zip_fields hd, Except.mapM_eq_error_iff]
  refine ⟨_, _, _, rfl, fun p hp => ?_, ?_⟩
  · have hgood := List.forall₂_iff_zip.mp h.fields_good |>.2 hp
    obtain ⟨hp₁, hp₂⟩ := List.of_mem_zip hp
    exact (exists_parse_iff (Domain.hasPlainNames_of_mem_all (List.mem_of_mem_take hp₁))
      (hwords _ (List.mem_append_left _ hp₂))).mpr hgood
  · refine (Field.parse_eq_error_iff (Domain.hasPlainNames_of_mem_all hmem)
      (hwords _ (by simp))).mpr ?_
    exact ⟨items, item, laterItems, e, rfl, hcomma, h.items_good, h.fault, rfl⟩

/-- The first item with a fault of the first field that cannot be read. -/
lemma firstFault_of_zip {ws : List (List Char)} {before after : List (Domain × List Char)} {cs : List Char}
    (hws : Text.Spread text.toList ws) (hlength : ws.length = 5)
    (hzip : Domain.all.zip ws = before ++ (d, cs) :: after)
    (hbefore : ∀ p ∈ before, ∃ s, Field.parse p.1 p.2 = .ok s)
    (hfault : Field.FirstFault d cs items item e) :
    FirstFault text.toList (before.map Prod.snd) items d item e := by
  have hcount : Domain.all.length = ws.length := by
    rw [hlength]
    rfl
  have hdomains : Domain.all = before.map Prod.fst ++ d :: after.map Prod.fst := by
    have hfst : (Domain.all.zip ws).map Prod.fst = Domain.all := List.map_fst_zip hcount.le
    rw [hzip] at hfst
    simpa using hfst.symm
  have hfields : ws = before.map Prod.snd ++ cs :: after.map Prod.snd := by
    have hsnd : (Domain.all.zip ws).map Prod.snd = ws := List.map_snd_zip hcount.ge
    rw [hzip] at hsnd
    simpa using hsnd.symm
  have hwords := hws.isWord
  have hplain : ∀ d ∈ Domain.all, d.HasPlainNames := fun d hd =>
    Domain.hasPlainNames_of_mem_all hd
  rw [hdomains] at hplain
  rw [hfields] at hwords hws
  obtain ⟨laterItems, rfl, hcomma, hitems, hfault⟩ := hfault
  refine ⟨⟨laterItems, after.map Prod.snd, hws, hcomma, ?_, ?_⟩, ?_, hitems, hfault⟩
  · rw [hdomains, List.length_map, ← List.length_map (f := Prod.fst),
      List.getElem?_append_right (Nat.le_refl _), Nat.sub_self]
    rfl
  · rw [hfields] at hlength
    simpa [Nat.add_assoc, Nat.add_comm 1] using hlength
  · rw [hdomains, List.length_map, ← List.length_map (f := Prod.fst), List.take_left,
      List.forall₂_map_left_iff, List.forall₂_map_right_iff, List.forall₂_same]
    intro p hp
    exact (exists_parse_iff (hplain p.1 (List.mem_append_left _ (List.mem_map_of_mem hp)))
      (hwords p.2 (List.mem_append_left _ (List.mem_map_of_mem hp)))).mp (hbefore p hp)

/-- An expression of five fields that cannot be read has a first item with a fault. -/
lemma exists_firstFault {ws : List (List Char)} (hws : Text.Spread text.toList ws)
    (hlength : ws.length = 5) (h : parse text = .error f) :
    ∃ fields items d item e, FirstFault text.toList fields items d item e ∧
      f = e.within item := by
  obtain ⟨before, ⟨d, cs⟩, after, hzip, hbefore, hfield⟩ :=
    Except.mapM_eq_error_iff.mp ((parse_eq_error_iff_mapM hws hlength).mp h)
  obtain ⟨hd, hcs⟩ : d ∈ Domain.all ∧ cs ∈ ws := List.of_mem_zip (by rw [hzip]; simp)
  obtain ⟨items, item, laterItems, e, hjoin, hcomma, hitems, hfault, rfl⟩ :=
    (Field.parse_eq_error_iff (Domain.hasPlainNames_of_mem_all hd) (hws.isWord cs hcs)).mp hfield
  exact ⟨_, items, d, item, e, firstFault_of_zip hws hlength hzip hbefore
    ⟨laterItems, hjoin, hcomma, hitems, hfault⟩, rfl⟩

/-! ### Texts that cannot be read -/

/-- A text that does not have five fields is told of as it is. -/
lemma parse_of_length_ne (h : (Text.words text.toList).length ≠ 5) :
    parse text = .error (.defect (.wrongFieldCount text)) := by
  rw [parse]
  split
  · next hwords =>
      rw [hwords] at h
      exact absurd rfl h
  · rfl

/-- **A text that cannot be read does not have five fields, or it has a first item with a fault**, of
which the error tells. -/
theorem parse_eq_error_iff :
    parse text = .error f ↔
      (∀ ws, Text.Spread text.toList ws → ws.length ≠ 5) ∧ f = .defect (.wrongFieldCount text) ∨
        ∃ fields items d item e, FirstFault text.toList fields items d item e ∧
          f = e.within item := by
  by_cases hlength : (Text.words text.toList).length = 5
  · have hspread : Text.Spread text.toList (Text.words text.toList) := Text.words_eq_iff.mp rfl
    constructor
    · exact fun h => Or.inr (exists_firstFault hspread hlength h)
    · rintro (⟨hcount, -⟩ | ⟨fields, items, d, item, e, hfault, rfl⟩)
      · exact absurd hlength (hcount _ hspread)
      · exact parse_of_firstFault hfault hfault.hasItem
  · have hcount : ∀ ws, Text.Spread text.toList ws → ws.length ≠ 5 := by
      intro ws hws
      rwa [← Text.words_of_spread hws]
    rw [parse_of_length_ne hlength, Except.error.injEq]
    constructor
    · rintro rfl
      exact Or.inl ⟨hcount, rfl⟩
    · rintro (⟨-, rfl⟩ | ⟨fields, items, d, item, e, hfault, -⟩)
      · rfl
      · obtain ⟨laterItems, laterFields, hspread, -, -, hfive⟩ := hfault.hasItem
        refine absurd ?_ (hcount _ hspread)
        rw [List.length_append, List.length_cons]
        omega

/-- What is told about an item is of one of three kinds, or about a numeral that is too long. -/
lemma blames_within (e : ItemError) (item : List Char) :
    (e = .invalidStep → Blames (e.within item) .invalidStep "Invalid step: " item) ∧
      (e = .invalidToken → Blames (e.within item) .invalidToken "Invalid token: " item) ∧
        (e = .outOfRange → Blames (e.within item) .outOfRange "Out of range: " item) ∧
          ∀ n, e = .longNumeral n → e.within item = .longNumeral n := by
  refine ⟨?_, ?_, ?_, ?_⟩
  · rintro rfl
    exact ⟨rfl, rfl, rfl⟩
  · rintro rfl
    exact ⟨rfl, rfl, rfl⟩
  · rintro rfl
    exact ⟨rfl, rfl, rfl⟩
  · rintro n rfl
    rfl

/-- The kinds of the defects that make a text unreadable; no field of a text is ever missing. -/
def rejections : List ErrorKind := [.wrongFieldCount, .invalidStep, .invalidToken, .outOfRange]

lemma name_mem_of_mem_rejections {kind : ErrorKind} (h : kind ∈ rejections) :
    kind.name ∈ ["wrong_field_count", "invalid_step", "invalid_token", "out_of_range"] :=
  List.mem_map_of_mem (f := ErrorKind.name) h

theorem kind_mem_of_parse {defect : Defect} (h : parse text = .error (.defect defect)) :
    defect.kind ∈ rejections := by
  rcases parse_eq_error_iff.mp h with ⟨-, hf⟩ | ⟨fields, items, d, item, e, -, hf⟩
  · cases hf
    simp [Defect.kind, rejections]
  · cases e <;> cases hf <;> simp [Defect.kind, rejections]

/-- An item is a part of its text. -/
lemma HasItem.sublist {cs : List Char} (h : HasItem cs fields items d item) : item.Sublist cs := by
  obtain ⟨laterItems, laterFields, hspread, hcomma, -, -⟩ := h
  have hitem := Text.pieces_eq_iff.mpr ⟨by simp, hcomma, rfl⟩
  have hfield : [','].intercalate (items ++ item :: laterItems) ∈ Text.words cs := by
    rw [Text.words_of_spread hspread]
    simp
  exact (Text.sublist_of_mem_pieces (by rw [hitem]; simp)).trans
    (Text.sublist_of_mem_pieces (List.mem_of_mem_filter hfield))

/-- Only a long text has a numeral in it that is too long. -/
theorem length_of_longNumeral {n : LongNumeral} (h : parse text = .error (.longNumeral n)) :
    4300 < text.length := by
  rcases parse_eq_error_iff.mp h with ⟨-, hf⟩ | ⟨fields, items, d, item, e, hfault, hf⟩
  · cases hf
  · have he : e = .longNumeral n := by
      cases e <;> cases hf
      rfl
    subst he
    have hlong := hfault.fault.long_lt_length
    have hpart := hfault.hasItem.sublist.length_le
    rw [String.length_toList] at hpart
    omega

/-- **An expression that cannot be read is told of its first fault.** If it does not have five fields, the
error is about the text as it is given. Otherwise it is about the first item with a fault, of the first
field that has one, and about the first fault of that item; it names the item, unless a numeral is too
long. Whatever stands behind the item makes no difference, and no field is ever missing. -/
theorem parse_blames_first_fault (text : String) :
    (∀ f, parse text = .error f ↔
      (∀ ws, Text.Spread text.toList ws → ws.length ≠ 5) ∧ f = .defect (.wrongFieldCount text) ∨
        ∃ fields items d item e, FirstFault text.toList fields items d item e ∧
          f = e.within item) ∧
    (∀ fields items d item e, FirstFault text.toList fields items d item e →
      (∀ other : String, HasItem other.toList fields items d item →
        parse other = .error (e.within item)) ∧
      (e = .invalidStep → Blames (e.within item) .invalidStep "Invalid step: " item) ∧
      (e = .invalidToken → Blames (e.within item) .invalidToken "Invalid token: " item) ∧
      (e = .outOfRange → Blames (e.within item) .outOfRange "Out of range: " item) ∧
      ∀ n, e = .longNumeral n → e.within item = .longNumeral n) ∧
    ∀ field, parse text ≠ .error (.defect (.missingField field)) := by
  refine ⟨fun f => parse_eq_error_iff, fun fields items d item e hfault => ⟨?_, blames_within e item⟩,
    fun field h => ?_⟩
  · exact fun other hother => parse_of_firstFault hfault hother
  · have hkind := kind_mem_of_parse h
    simp [Defect.kind, rejections] at hkind

/-- The step is read first, and what comes after the item is not read at all. -/
example : parse "* 1-x/0,99 * * *" = .error (.defect (.invalidStep "1-x/0")) := rfl

end CronPreview.Cron
