/-
Schedules written as expressions.

* `Schedule.lists`: the values of the five fields, in increasing order;
* `Field.render`, `Cron.render`: values with commas between them, and five such lists with spaces between
  them;
* `Field.means_render`: a rendered list stands for the set of its values;
* `Cron.parse_render`: a schedule whose sets lie in their domains is read back from its rendering;
* `Cron.parse_render_inverse`: reading and rendering are inverse to each other, for all sets of values of
  the five domains and for all expressions that can be read.
-/
import Mathlib.Data.Finset.Sort
import Mathlib.Order.Interval.Finset.Basic
import CronPreview.Proofs.Schedule.Parsed
import CronPreview.Proofs.Text.Joined
import CronPreview.Proofs.Text.Numeral
import CronPreview.Service.Reply

namespace CronPreview

/-! ### Renderings -/

/-- The values of the five fields of a schedule, in increasing order. -/
def Schedule.lists (s : Schedule) : List (List ℤ) := s.fieldSets.map FieldSet.toList

/-- The values of a field, with commas between them. -/
def Field.render (l : List ℤ) : List Char := [','].intercalate (l.map Numeral.renderInt)

/-- The values of five fields, with spaces between the fields. -/
def Cron.render (ls : List (List ℤ)) : String :=
  String.ofList ([' '].intercalate (ls.map Field.render))

/-! ### Numerals -/

/-- The values of the domains have at most two digits. -/
lemma Numeral.render_lt {n : ℕ} (h : n < 100) :
    (Numeral.render n).length ≤ 2 ∧ IsDigits (Numeral.render n) := by
  have hlength : (Numeral.render n).length ≤ 2 := Nat.toDigits_length 10 n 2 (by decide) h
  exact ⟨hlength, ⟨Nat.toDigits_ne_nil, fun _ => Numeral.isDigit_of_mem_render, by omega⟩⟩

namespace Domain

variable {d : Domain} {v : ℤ}

/-- The values of a domain are natural numbers below one hundred. -/
lemma exists_lt_of_contains (hd : d ∈ Domain.all) (hv : d.Contains v) :
    ∃ n : ℕ, v = n ∧ n < 100 := by
  have hbounds : ∀ d ∈ Domain.all, 0 ≤ d.min ∧ d.max < 100 := by decide
  have hd := hbounds d hd
  rw [Contains] at hv
  exact ⟨v.toNat, by omega, by omega⟩

/-- No value of a domain is the seventh day of the week. -/
lemma normalize_of_contains (hd : d ∈ Domain.all) (hv : d.Contains v) : d.normalize v = v := by
  have hweek : ∀ d ∈ Domain.all, d.names = none ∨ d.names = some .months ∨ d.max < 7 := by decide
  rw [Contains] at hv
  rcases hweek d hd with hnames | hnames | hmax
  · exact normalize_of_names_eq_none hnames v
  · simp [normalize, hnames, NameTable.months]
  · have hne : ¬ v = 7 := by omega
    simp [normalize, hne]

end Domain

/-! ### Fields -/

namespace Field

variable {d : Domain} {l : List ℤ}

/-- A value is rendered as an item that stands for it. -/
lemma isItem_renderInt (hd : d ∈ Domain.all) {v : ℤ} (hv : d.Contains v) :
    IsItem d (Numeral.renderInt v) (.one v, 1) := by
  have hnormalize := Domain.normalize_of_contains hd hv
  obtain ⟨n, rfl, hn⟩ := Domain.exists_lt_of_contains hd hv
  have hvalue := IsValue.numeral (d := d) (Numeral.render_lt hn).2
  rw [Numeral.value_render] at hvalue
  have hspan := IsSpan.one hvalue (by rwa [hnormalize])
  rw [hnormalize] at hspan
  have hitem := IsItem.mk hspan .none
  rwa [List.append_nil] at hitem

/-- A rendered list is a field of the grammar. -/
lemma isField_render (hd : d ∈ Domain.all) (hne : l ≠ []) (hl : ∀ v ∈ l, d.Contains v) :
    IsField d (render l) (l.map fun v => (.one v, 1)) := by
  have hplain := Domain.hasPlainNames_of_mem_all hd
  have hpieces : Text.pieces (· == ',') (render l) = l.map Numeral.renderInt := by
    refine Text.pieces_eq_iff.mpr ⟨by simpa using hne, fun w hw hcomma => ?_, rfl⟩
    obtain ⟨v, hv, rfl⟩ := List.mem_map.mp hw
    exact ((isItem_renderInt hd (hl v hv)).itemChars hplain ',' hcomma).1 rfl
  rw [isField_iff hplain, hpieces, List.forall₂_map_left_iff, List.forall₂_map_right_iff,
    List.forall₂_same]
  exact fun v hv => isItem_renderInt hd (hl v hv)

/-- A rendered list stands for the set of its values. -/
theorem means_render (hd : d ∈ Domain.all) {s : FieldSet} (hs : InDomain d s) :
    Means d (render s.toList) s := by
  have hne : s.toList ≠ [] := by
    obtain ⟨x, hx⟩ := hs.nonempty
    exact List.ne_nil_of_mem hx
  refine ⟨_, isField_render hd hne hs.contains, fun x => ?_⟩
  simp [Span.Holds]

lemma Means.isWord (hd : d.HasPlainNames) {cs : List Char} {s : FieldSet} (h : Means d cs s) :
    Text.IsWord cs := by
  obtain ⟨is, his, -⟩ := h
  exact his.isWord hd

/-- A value takes two digits and a comma at most. -/
lemma length_render_le (hd : d ∈ Domain.all) (hl : ∀ v ∈ l, d.Contains v) :
    (render l).length ≤ 3 * l.length := by
  induction l with
  | nil => simp [render]
  | cons v l ih =>
      obtain ⟨n, rfl, hn⟩ := Domain.exists_lt_of_contains hd (hl v List.mem_cons_self)
      have hlength : (Numeral.renderInt n).length ≤ 2 := (Numeral.render_lt hn).1
      have ih := ih fun w hw => hl w (List.mem_cons_of_mem _ hw)
      rw [render] at ih ⊢
      cases l with
      | nil =>
          rw [List.map_singleton, List.intercalate_singleton]
          simp only [List.length_singleton]
          omega
      | cons w l =>
          simp only [List.map_cons, List.intercalate_cons_cons, List.length_append, List.length_cons,
            List.length_nil] at ih ⊢
          omega

/-- A set of values of a domain has no more values than the domain. -/
lemma InDomain.length_le {s : FieldSet} (hs : InDomain d s) :
    s.toList.length ≤ (d.max + 1 - d.min).toNat := by
  have hnodup : s.toList.Nodup := s.increasing.imp fun hlt => Int.ne_of_lt hlt
  have hsub : s.toList.toFinset ⊆ Finset.Icc d.min d.max := by
    intro x hx
    exact Finset.mem_Icc.mpr (hs.contains x (List.mem_toFinset.mp hx))
  have hcard := Finset.card_le_card hsub
  rwa [List.toFinset_card_of_nodup hnodup, Int.card_Icc] at hcard

/-- A set of values of a domain takes two digits and a comma for each value of the domain at most. -/
lemma InDomain.length_render_le {s : FieldSet} (hd : d ∈ Domain.all) (hs : InDomain d s) :
    (render s.toList).length ≤ 3 * (d.max + 1 - d.min).toNat :=
  (Field.length_render_le hd hs.contains).trans (Nat.mul_le_mul_left 3 hs.length_le)

end Field

/-! ### Schedules -/

/-- A finite set of integers as a set of values. -/
def FieldSet.ofFinset (s : Finset ℤ) : FieldSet :=
  ⟨s.sort, s.sortedLT_sort.pairwise⟩

namespace Cron

variable {s : Schedule}

/-- **A schedule is read back from its rendering**, when its sets lie in their domains. -/
theorem parse_render (hs : s.InDomains) :
    ∃ c, parse (render s.lists) = .ok c ∧ c.schedule = s := by
  have hall : ∀ d ∈ Domain.all, ∀ f : FieldSet, Field.InDomain d f →
      Text.IsWord (Field.render f.toList) ∧ Field.Means d (Field.render f.toList) f := by
    intro d hd f hf
    have hmeans := Field.means_render hd hf
    exact ⟨hmeans.isWord (Domain.hasPlainNames_of_mem_all hd), hmeans⟩
  obtain ⟨w₁, m₁⟩ := hall .minute (by decide) s.minute hs.minute
  obtain ⟨w₂, m₂⟩ := hall .hour (by decide) s.hour hs.hour
  obtain ⟨w₃, m₃⟩ := hall .dayOfMonth (by decide) s.dayOfMonth hs.dayOfMonth
  obtain ⟨w₄, m₄⟩ := hall .month (by decide) s.month hs.month
  obtain ⟨w₅, m₅⟩ := hall .dayOfWeek (by decide) s.dayOfWeek hs.dayOfWeek
  have hspread : Text.Spread (render s.lists).toList (s.lists.map Field.render) := by
    rw [render, String.toList_ofList]
    refine Text.spread_intercalate ?_
    simp only [Schedule.lists, Schedule.fieldSets, List.map_cons, List.map_nil, List.forall_mem_cons]
    exact ⟨w₁, w₂, w₃, w₄, w₅, by simp⟩
  exact ⟨⟨_, s⟩, parse_eq_ok_iff.mpr ⟨rfl, _, _, _, _, _, hspread, m₁, m₂, m₃, m₄, m₅⟩, rfl⟩

/-- The rendering of a schedule is short. -/
lemma length_render_le (hs : s.InDomains) : (render s.lists).length ≤ 1000 := by
  have h₁ := hs.minute.length_render_le (by decide)
  have h₂ := hs.hour.length_render_le (by decide)
  have h₃ := hs.dayOfMonth.length_render_le (by decide)
  have h₄ := hs.month.length_render_le (by decide)
  have h₅ := hs.dayOfWeek.length_render_le (by decide)
  simp only [Domain.minute, Domain.hour, Domain.dayOfMonth, Domain.month, Domain.dayOfWeek] at *
  rw [render, String.length_ofList]
  simp only [Schedule.lists, Schedule.fieldSets, List.map_cons, List.map_nil,
    List.intercalate_cons_cons, List.intercalate_singleton, List.length_append, List.length_cons,
    List.length_nil]
  omega

/-- The lists of a schedule are not empty, they increase, and their values lie in their domains, when
its sets do so. -/
lemma lists_inDomains (hs : s.InDomains) :
    List.Forall₂ (fun d l => l ≠ [] ∧ l.Pairwise (· < ·) ∧ ∀ v ∈ l, d.Contains v) Domain.all
      s.lists := by
  have hlist : ∀ {d : Domain} {f : FieldSet}, Field.InDomain d f →
      f.toList ≠ [] ∧ f.toList.Pairwise (· < ·) ∧ ∀ v ∈ f.toList, d.Contains v := by
    intro d f hf
    obtain ⟨x, hx⟩ := hf.nonempty
    exact ⟨List.ne_nil_of_mem hx, f.increasing, hf.contains⟩
  exact .cons (hlist hs.minute) (.cons (hlist hs.hour) (.cons (hlist hs.dayOfMonth)
    (.cons (hlist hs.month) (.cons (hlist hs.dayOfWeek) .nil))))

/-- **Reading and rendering are inverse to each other.** Five sets of values that are not empty and lie in
the five domains have a rendering of at most 1000 characters, which is read as an expression with these
values. And every expression that can be read has such values: a list of increasing values of its domain
for each field, none of them empty, from the rendering of which an equal schedule is read. An expression is
told of by these lists, each under the name of its domain. -/
theorem parse_render_inverse :
    (∀ sets : List (Finset ℤ),
      List.Forall₂ (fun d s => s.Nonempty ∧ ∀ v ∈ s, d.Contains v) Domain.all sets →
        (render (sets.map fun s => s.sort)).length ≤ 1000 ∧
          ∃ c, parse (render (sets.map fun s => s.sort)) = .ok c ∧
            c.schedule.lists = sets.map fun s => s.sort) ∧
    (∀ text c, parse text = .ok c →
      List.Forall₂ (fun d l => l ≠ [] ∧ l.Pairwise (· < ·) ∧ ∀ v ∈ l, d.Contains v) Domain.all
          c.schedule.lists ∧
        ∃ c', parse (render c.schedule.lists) = .ok c' ∧ c'.schedule = c.schedule) ∧
    ∀ s : Schedule, s.toJson = .object (List.zipWith
      (fun d l => (d.name, .array (l.map .integer))) Domain.all s.lists) := by
  refine ⟨fun sets hsets => ?_, fun text c hc => ?_, fun s => rfl⟩
  · have hin : ∀ {d : Domain} {s : Finset ℤ}, s.Nonempty ∧ (∀ v ∈ s, d.Contains v) →
        Field.InDomain d (.ofFinset s) := by
      rintro d s ⟨⟨x, hx⟩, hs⟩
      exact ⟨⟨x, (Finset.mem_sort _).mpr hx⟩, fun v hv => hs v ((Finset.mem_sort _).mp hv)⟩
    obtain ⟨s, hs, hlists⟩ : ∃ s : Schedule, s.InDomains ∧ s.lists = sets.map fun s => s.sort := by
      rcases hsets with - | ⟨h₁, - | ⟨h₂, - | ⟨h₃, - | ⟨h₄, - | ⟨h₅, - | -⟩⟩⟩⟩⟩
      exact ⟨⟨_, _, _, _, _⟩, ⟨hin h₁, hin h₂, hin h₃, hin h₄, hin h₅⟩, rfl⟩
    obtain ⟨c, hc, rfl⟩ := parse_render hs
    rw [← hlists]
    exact ⟨length_render_le hs, c, hc, rfl⟩
  · have hs := inDomains_of_parse hc
    exact ⟨lists_inDomains hs, parse_render hs⟩

example : render [[0, 30], [9], [1, 15], [1], [0]] = "0,30 9 1,15 1 0" := rfl

end Cron

end CronPreview
