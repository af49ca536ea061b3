/-
Named values.

* `Variables`: named values, in the order in which their names came first;
* `Variables.put`: gives a name its value, which takes the place of an earlier one;
* `Variables.lowered`: the same values under names in lower case.
-/
import CronPreview.Text.Lower

namespace CronPreview

/-- Named values, in the order in which their names came first. -/
abbrev Variables (α : Type) := List (String × α)

namespace Variables

variable {α : Type}

/-- Gives a name its value. -/
def put (name : String) (value : α) : Variables α → Variables α
  | [] => [(name, value)]
  | (k, v) :: rest => if k = name then (k, value) :: rest else (k, v) :: put name value rest

/-- The values of a list in which a name may come again; its last value counts. -/
def ofList (entries : List (String × α)) : Variables α :=
  entries.foldl (fun vs e => vs.put e.1 e.2) []

/-- The same values under names in lower case, of which the last counts if several become one. -/
def lowered (vs : Variables α) : Variables α :=
  ofList (vs.map fun e => (String.ofList (Text.lower e.1.toList), e.2))

end Variables

end CronPreview
