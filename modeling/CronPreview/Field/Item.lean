/-
One comma item of a field, such as `*`, `*/15`, `7`, `mon-fri` or `22-6/2`.

* `Item.cut`: the parts of an item's text, cut at the first slash and the first hyphen;
* `Item.step`: the step, which is one if it is not given;
* `interval`, `strided`: the values of an interval, and every `step`-th of them;
* `Item.ranged`: every `step`-th value of a range, which may wrap round the end of its domain;
* `Item.values`, `Item.expand`: the values of an item, in the order in which they are generated.
-/
import CronPreview.Field.Token
import CronPreview.Text.Pieces

namespace CronPreview

/-- The values from `lo` to `hi`, in increasing order. -/
def interval (lo hi : Int) : List Int :=
  (List.range (hi + 1 - lo).toNat).map fun (k : Nat) => lo + k

/-- Every `step`-th value from `lo` to `hi`, beginning with `lo`. -/
def strided (lo hi : Int) (step : Nat) : List Int :=
  (List.range ((hi - lo) / step + 1).toNat).map fun (k : Nat) => lo + k * step

/-- What an item ranges over, before its step is taken into account. -/
inductive Span (α : Type) where
  /-- The whole domain. -/
  | all
  /-- A lone value. -/
  | one (value : α)
  /-- The values from one end to the other. -/
  | between (first last : α)
deriving DecidableEq, Repr

/-- The parts of an item's text: what it ranges over, and its step if it has one. -/
structure Item where
  span : Span (List Char)
  stepText : Option (List Char)
deriving DecidableEq, Repr

namespace Item

/-- Cuts a range at its first hyphen. A lone star is the whole domain. -/
def cutSpan (cs : List Char) : Span (List Char) :=
  if cs = ['*'] then .all
  else match Text.cutAt '-' cs with
    | (value, none) => .one value
    | (first, some last) => .between first last

/-- Cuts an item at its first slash, and what stands before it at its first hyphen. -/
def cut (cs : List Char) : Item :=
  let (range, step) := Text.cutAt '/' cs
  ⟨cutSpan range, step⟩

/-- The step of an item: a positive numeral, or one if there is none. -/
def step (i : Item) : Except ItemError Nat :=
  match i.stepText with
  | none => .ok 1
  | some ds =>
    if Numeral.isNumeral ds then
      match Numeral.read ds with
      | .error n => .error (.longNumeral n)
      | .ok 0 => .error .invalidStep
      | .ok n => .ok n
    else .error .invalidStep

/-- The two ends of a range of tokens, the first one resolved first. -/
def ends (d : Domain) (first last : List Char) : Except ItemError (Int × Int) := do
  let v ← Token.resolve d.names 0 first
  let w ← Token.resolve d.names 0 last
  return (d.normalize v, d.normalize w)

/-- Every `step`-th value of the range from `v` to `w`. When `w < v` the range runs to the end of
the domain and begins again at its start; the values of this second part are counted from zero,
as if the `d.max - v + 1` values of the first part stood right before it. -/
def ranged (d : Domain) (v w : Int) (step : Nat) : List Int :=
  if v ≤ w then (interval v w).filter fun x => (x - v) % step == 0
  else
    ((interval v d.max).filter fun x => (x - v) % step == 0)
      ++ (interval d.min w).filter fun x => (x + (d.max - v + 1)) % step == 0

/-- The values between two ends, which must lie in the domain. -/
def valuesBetween (d : Domain) (step : Nat) (e : Int × Int) : Except ItemError (List Int) :=
  if d.Contains e.1 ∧ d.Contains e.2 then .ok (ranged d e.1 e.2 step) else .error .outOfRange

/-- The values of an item, in the order in which they are generated. The step is read first. -/
def values (d : Domain) (i : Item) : Except ItemError (List Int) := do
  let step ← i.step
  match i.span with
  | .all => return strided d.min d.max step
  | .one value => valuesBetween d step (← ends d value value)
  | .between first last => valuesBetween d step (← ends d first last)

/-- The values of the item with this text; an error names the item. -/
def expand (d : Domain) (cs : List Char) : Except ParseError (List Int) :=
  ((cut cs).values d).mapError (ItemError.within cs)

end Item

end CronPreview
