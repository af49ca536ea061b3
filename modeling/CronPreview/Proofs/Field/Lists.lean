/-
Comma lists of items.

* `Field.exists_expandAll_iff`: a list can be read when each of its items can;
* `Field.mem_expandAll`: it then stands for the values of all its items together;
* `Field.Extends`, `Field.Extends.exists_parse`: a field with more items stands for no fewer values;
* `Field.parse_of_not_blank`, `Field.expandAll_append`: a field is read as the list of its items, and a list as its
  two parts, the first one first;
* `Field.parse_of_subset`: neither the order of the items nor how often they are written makes a difference;
* `Field.comma_lists_are_unions`: what this means for fields that are joined with a comma.
-/
import CronPreview.Proofs.Field.Denotation
import CronPreview.Proofs.Text.Joined

namespace CronPreview.Field

variable {d : Domain} {ws : List (List Char)} {s : FieldSet} {f g : List Char}

/-- A list of items can be read when each of them can. -/
theorem exists_expandAll_iff :
    (∃ s, expandAll d ws = .ok s) ↔ ∀ w ∈ ws, ∃ l, Item.expand d w = .ok l := by
  rw [← Except.exists_mapM_iff]
  simp only [expandAll, Except.map_eq_ok_iff]
  constructor
  · rintro ⟨s, ls, hls, -⟩
    exact ⟨ls, hls⟩
  · rintro ⟨ls, hls⟩
    exact ⟨_, ls, hls, rfl⟩

/-- A list of items stands for the values of all of them together. -/
theorem mem_expandAll (h : expandAll d ws = .ok s) {v : ℤ} :
    v ∈ s ↔ ∃ w ∈ ws, ∃ l, Item.expand d w = .ok l ∧ v ∈ l := by
  obtain ⟨ls, hls, rfl⟩ := Except.map_eq_ok_iff.mp h
  rw [FieldSet.mem_ofList, List.mem_flatten]
  simp only [Except.mem_iff_of_mapM hls]
  constructor
  · rintro ⟨l, ⟨w, hw, hl⟩, hv⟩
    exact ⟨w, hw, l, hl, hv⟩
  · rintro ⟨w, hw, l, hl, hv⟩
    exact ⟨l, ⟨w, hw, hl⟩, hv⟩

/-- The second field has all comma items of the first one, and besides them only items of the domain. -/
structure Extends (d : Domain) (f g : List Char) : Prop where
  subset : Text.pieces (· == ',') f ⊆ Text.pieces (· == ',') g
  good : ∀ w ∈ Text.pieces (· == ',') g, w ∈ Text.pieces (· == ',') f ∨ ∃ l, Item.expand d w = .ok l

lemma Extends.refl (d : Domain) (f : List Char) : Extends d f f where
  subset := List.Subset.refl _
  good := fun _ hw => Or.inl hw

/-- Items of the domain may be added after a comma. -/
lemma Extends.append (f : List Char) (h : ∀ w ∈ Text.pieces (· == ',') g, ∃ l, Item.expand d w = .ok l) :
    Extends d f (f ++ ',' :: g) := by
  have hpieces := Text.pieces_append_sep ',' f g
  refine ⟨?_, fun w hw => ?_⟩
  · rw [hpieces]
    exact List.subset_append_left _ _
  · rw [hpieces] at hw
    exact (List.mem_append.mp hw).imp_right (h w)

/-- **A field with more items stands for no fewer values.** -/
theorem Extends.exists_parse (h : Extends d f g) (hf : Text.IsWord f) (hg : Text.IsWord g)
    (hs : parse d f = .ok s) : ∃ s', parse d g = .ok s' ∧ ∀ v ∈ s, v ∈ s' := by
  rw [parse_of_isWord hf] at hs
  rw [parse_of_isWord hg]
  have hgood := exists_expandAll_iff.mp ⟨s, hs⟩
  obtain ⟨s', hs'⟩ : ∃ s', expandAll d (Text.pieces (· == ',') g) = .ok s' :=
    exists_expandAll_iff.mpr fun w hw => (h.good w hw).elim (hgood w) id
  refine ⟨s', hs', fun v hv => ?_⟩
  obtain ⟨w, hw, hvalues⟩ := (mem_expandAll hs).mp hv
  exact (mem_expandAll hs').mpr ⟨w, h.subset hw, hvalues⟩

/-! ### Lists that are joined -/

/-- Nothing is missing from a field that is read as a list: blanks around it are blanks around its items, and a
lone star has the values that it has as an item. -/
theorem parse_of_not_blank {cs : List Char} (h : ∃ c ∈ cs, Text.isBlank c = false) :
    parse d cs = expandAll d (items cs) := by
  have htrim : items (Text.trim cs) = items cs := Text.map_trim_pieces_trim (by decide) cs
  simp only [parse, Text.trim_ne_nil h, if_false]
  rw [← htrim]
  split
  · next hstar =>
      rw [hstar]
      exact expandAll_star.symm
  · rfl

/-- The set of the values of two lists together is the union of their sets. -/
lemma ofList_append (l m : List ℤ) : FieldSet.ofList (l ++ m) = (FieldSet.ofList l).union (.ofList m) :=
  FieldSet.ext_mem fun v => by simp

/-- **A list is read as its two parts are**, the first one first. -/
theorem expandAll_append (as bs : List (List Char)) :
    expandAll d (as ++ bs) = do
      let s ← expandAll d as
      let t ← expandAll d bs
      return s.union t := by
  simp only [expandAll, List.mapM_append]
  cases as.mapM (Item.expand d) with
  | error e => rfl
  | ok ls =>
      cases bs.mapM (Item.expand d) with
      | error e => rfl
      | ok ms =>
          have hunion := ofList_append ls.flatten ms.flatten
          rw [← List.flatten_append] at hunion
          exact congrArg Except.ok hunion

lemma expandAll_singleton (w : List Char) :
    expandAll d [w] = (Item.expand d w).map FieldSet.ofList := by
  rw [expandAll, List.mapM_cons]
  cases Item.expand d w with
  | error e => rfl
  | ok l =>
      have hflatten : [l].flatten = l := by simp
      exact congrArg (fun l => Except.ok (FieldSet.ofList l)) hflatten

/-- A comma is no blank. -/
lemma not_blank_of_comma_mem {cs : List Char} (h : ',' ∈ cs) : ∃ c ∈ cs, Text.isBlank c = false :=
  ⟨',', h, by decide⟩

/-- A field that two fields are joined to is read as the first one, and then as the second one. -/
lemma parse_append_comma (hf : ∃ c ∈ f, Text.isBlank c = false)
    (hg : ∃ c ∈ g, Text.isBlank c = false) :
    parse d (f ++ ',' :: g) = do
      let s ← parse d f
      let t ← parse d g
      return s.union t := by
  have hitems : items (f ++ ',' :: g) = items f ++ items g := by
    rw [items, items, items, Text.pieces_append_sep, List.map_append]
  rw [parse_of_not_blank (not_blank_of_comma_mem (by simp)), hitems, expandAll_append,
    parse_of_not_blank hf, parse_of_not_blank hg]

/-- Only a field that is not blank can be read. -/
lemma not_blank_of_parse {cs : List Char} (h : parse d cs = .ok s) :
    ∃ c ∈ cs, Text.isBlank c = false := by
  by_contra hblank
  have hall : ∀ c ∈ cs, Text.isBlank c = true := by
    intro c hc
    by_contra hne
    exact hblank ⟨c, hc, by simpa using hne⟩
  have htrim : Text.trim cs = [] := by
    have hnil := Text.trim_append_left hall []
    rwa [List.append_nil] at hnil
  rw [parse, htrim] at h
  cases h

/-- The items of a joined list, without the blanks around them. -/
lemma items_intercalate (hne : ws ≠ []) (hcomma : ∀ w ∈ ws, ',' ∉ w) :
    items ([','].intercalate ws) = ws.map Text.trim := by
  rw [items, Text.pieces_eq_iff.mpr ⟨hne, hcomma, rfl⟩]

/-- **A list with the same items has the same set**, in whatever order and however often they are written. -/
theorem parse_of_subset {vs : List (List Char)} (hcomma : ∀ w ∈ ws, ',' ∉ w) (hsub : ws ⊆ vs)
    (hsup : vs ⊆ ws) (hvs : ∃ c ∈ [','].intercalate vs, Text.isBlank c = false)
    (h : parse d ([','].intercalate ws) = .ok s) : parse d ([','].intercalate vs) = .ok s := by
  have hws := not_blank_of_parse h
  have hne : ws ≠ [] := by
    rintro rfl
    obtain ⟨c, hc, -⟩ := hws
    cases hc
  have hne' : vs ≠ [] := fun hnil => hne (List.subset_nil.mp (hnil ▸ hsub))
  rw [parse_of_not_blank hws, items_intercalate hne hcomma] at h
  rw [parse_of_not_blank hvs, items_intercalate hne' fun w hw => hcomma w (hsup hw)]
  have hsame : ∀ w, w ∈ vs.map Text.trim ↔ w ∈ ws.map Text.trim := fun w =>
    ⟨fun hw => List.map_subset _ hsup hw, fun hw => List.map_subset _ hsub hw⟩
  obtain ⟨t, ht⟩ := exists_expandAll_iff.mpr fun w hw =>
    exists_expandAll_iff.mp ⟨s, h⟩ w ((hsame w).mp hw)
  have hset : t = s := FieldSet.ext_mem fun v => by
    simp only [mem_expandAll ht, mem_expandAll h, hsame]
  rw [ht, hset]

/-- A list that is not blank remains so when items are added to it. -/
lemma not_blank_of_subperm {vs : List (List Char)} (hsub : ws.Subperm vs)
    (h : ∃ c ∈ [','].intercalate ws, Text.isBlank c = false) :
    ∃ c ∈ [','].intercalate vs, Text.isBlank c = false := by
  cases vs with
  | nil =>
      obtain rfl := List.subperm_nil.mp hsub
      exact h
  | cons v vs =>
      cases vs with
      | nil =>
          -- the list is this one item, unless it has no item and is blank
          have hne : ws ≠ [] := by
            rintro rfl
            obtain ⟨c, hc, -⟩ := h
            cases hc
          have hperm := hsub.perm_of_length_le (List.length_pos_iff.mpr hne)
          rwa [List.perm_singleton.mp hperm] at h
      | cons v' vs =>
          refine not_blank_of_comma_mem ?_
          rw [List.intercalate_cons_cons]
          simp

/-- **Comma lists are unions.** Two fields that are not blank can be joined with a comma. What they make can be read
exactly when both can, and is the union of their sets; it fails as the first one does, or as the second one does
if the first one can be read. So a list that can be read keeps its set when its items are written in another order
or more often, and a lone star has the set of the values that it has as an item. -/
theorem comma_lists_are_unions (d : Domain) :
    (∀ f g : List Char, (∃ c ∈ f, Text.isBlank c = false) → (∃ c ∈ g, Text.isBlank c = false) →
      (∀ s, parse d (f ++ ',' :: g) = .ok s ↔
        ∃ t u, parse d f = .ok t ∧ parse d g = .ok u ∧ s = t.union u) ∧
      ∀ e, parse d (f ++ ',' :: g) = .error e ↔
        parse d f = .error e ∨ (∃ t, parse d f = .ok t) ∧ parse d g = .error e) ∧
    (∀ (ws vs : List (List Char)) (s : FieldSet), (∀ w ∈ ws, ',' ∉ w) → ws.Subperm vs → vs ⊆ ws →
      parse d ([','].intercalate ws) = .ok s → parse d ([','].intercalate vs) = .ok s) ∧
    parse d ['*'] = (Item.expand d ['*']).map .ofList := by
  refine ⟨fun f g hf hg => ?_, fun ws vs s hcomma hsub hsup h => ?_, ?_⟩
  · rw [parse_append_comma hf hg]
    simp only [Except.bind_eq_ok_iff, Except.bind_eq_error_iff]
    refine ⟨fun s => ?_, fun e => ?_⟩
    · refine ⟨?_, ?_⟩
      · rintro ⟨t, ht, u, hu, hs⟩
        exact ⟨t, u, ht, hu, (Except.ok.inj hs).symm⟩
      · rintro ⟨t, u, ht, hu, rfl⟩
        exact ⟨t, ht, u, hu, rfl⟩
    · simp [pure, Except.pure]
  · have hvs := not_blank_of_subperm hsub (not_blank_of_parse h)
    exact parse_of_subset hcomma hsub.subset hsup hvs h
  · rw [parse_of_not_blank ⟨'*', List.mem_cons_self, by decide⟩]
    exact expandAll_singleton ['*']

/-- The hours of the night and every eighth hour are one field. -/
theorem comma_lists_are_unions_nights :
    (∃ c ∈ "22-2".toList, Text.isBlank c = false) ∧ (∃ c ∈ " */8".toList, Text.isBlank c = false) ∧
      parse .hour ("22-2".toList ++ ',' :: " */8".toList) =
        .ok (.ofList [0, 1, 2, 8, 16, 22, 23]) := by
  have hnights : ∃ c ∈ "22-2".toList, Text.isBlank c = false := ⟨'2', by decide, by decide⟩
  have heighths : ∃ c ∈ " */8".toList, Text.isBlank c = false := ⟨'*', by decide, by decide⟩
  have hparse : parse .hour "22-2".toList = .ok (.ofList [22, 23, 0, 1, 2]) := rfl
  have hparse' : parse .hour " */8".toList = .ok (.ofList [0, 8, 16]) := rfl
  exact ⟨hnights, heighths, (((comma_lists_are_unions .hour).1 _ _ hnights heighths).1 _).mpr
    ⟨_, _, hparse, hparse', rfl⟩⟩

end CronPreview.Field
