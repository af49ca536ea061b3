/-
Numbers of runs in requests.

* `RunCount`: a number of runs that may be asked for, one to fifty;
* `RunCount.ofInt`: an integer as such a number;
* `readInteger`: the integer that a number, a truth value or a text stands for;
* `readCount`: a number of runs, if one is asked for.
-/
import CronPreview.Service.Fault
import CronPreview.Text.Integer

namespace CronPreview.Service

/-- The greatest number of runs that may be asked for. -/
def maxRunCount : Nat := 50

/-- A number of runs that may be asked for. -/
structure RunCount where
  value : Nat
  one_le : 1 ≤ value
  le_max : value ≤ maxRunCount
deriving DecidableEq

/-- An integer as a number of runs. -/
def RunCount.ofInt (n : Int) : Except Fault RunCount :=
  if h : n < 1 then .error .tooSmall
  else if h' : (maxRunCount : Int) < n then .error .tooLarge
  else .ok ⟨n.toNat, by omega, by omega⟩

/-- The integer that a number with a zero fraction stands for. -/
def wholeReal (x : Float) : Except Fault Int :=
  if x.isNaN || x.isInf then .error .notFinite
  else if x.floor != x then .error .fractional
  else if x.abs < 9223372036854775808.0 then .ok x.toInt64.toInt
  else .error .numeralTooLong

/-- The integer that a value stands for; a truth value stands for one or zero. -/
def readInteger : Json → Except Fault Int
  | .bool b => .ok (if b then 1 else 0)
  | .integer n => .ok n
  | .real x => wholeReal x
  | .string s =>
    match Text.readInteger s with
    | .ok n => .ok n
    | .error .notANumeral => .error .notANumeral
    | .error .tooLong => .error .numeralTooLong
  | _ => .error .notAnInteger

/-- The number of runs that is asked for, if one is. -/
def readCount : Option Json → Except Fault (Option RunCount)
  | none | some .null => .ok none
  | some v => do return some (← RunCount.ofInt (← readInteger v))

end CronPreview.Service
