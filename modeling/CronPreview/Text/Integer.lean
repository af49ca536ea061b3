/-
Integers as people type them.

* `IntegerError`: why a text stands for no integer;
* `dropZeros`, `dropFraction`, `dropUnderscores`: the freedoms that are taken away, one by one,
  until a plain numeral is left;
* `plainInt`: the integer of a plain numeral;
* `readInteger`: the integer that a text stands for.
-/
import CronPreview.Text.Blank
import CronPreview.Text.Numeral

namespace CronPreview.Text

/-- Why a text stands for no integer. -/
inductive IntegerError where
  | notANumeral
  /-- The numeral is too long to be converted. -/
  | tooLong
deriving DecidableEq, Repr

/-- The numeral without zeros at its front, which may have underscores between them. Only digits
and a minus sign may begin a numeral, and one zero stays before a point and at the end. -/
def dropZeros : List Char → Option (List Char)
  | '0' :: cs =>
    let rest := cs.dropWhile fun c => c == '0' || c == '_'
    match rest with
    | [] => ('0' :: cs).getLast?.map fun c => [c]
    | '.' :: _ =>
      (('0' :: cs).take (cs.length - rest.length + 1)).getLast?.map fun c => c :: rest
    | c :: _ => if c.isDigit then some rest else none
  | c :: cs => if c.isDigit || c == '-' then some (c :: cs) else none
  | [] => none

/-- The numeral without a fraction that is zero; a point with nothing after it is no fraction. -/
def dropFraction (cs : List Char) : List Char :=
  match cutAt '.' cs with
  | (whole, some fraction) =>
    if fraction ≠ [] ∧ fraction.all (· == '0') then whole else cs
  | (_, none) => cs

/-- The numeral without its underscores, each of which must stand between two other characters. -/
def dropUnderscores (cs : List Char) : List Char :=
  if (pieces (· == '_') cs).all fun p => !p.isEmpty then cs.filter (· != '_') else cs

/-- The integer of a plain numeral, which begins with a zero only if it is zero. -/
def plainInt (cs : List Char) : Except IntegerError Int :=
  let (negative, ds) := match cs with
    | '-' :: ds => (true, ds)
    | ds => (false, ds)
  if Numeral.isNumeral ds ∧ (ds.head? = some '0' → ds.length = 1) then
    match Numeral.read ds with
    | .ok n => .ok (if negative then -n else n)
    | .error _ => .error .tooLong
  else .error .notANumeral

/-- The integer that a text stands for. There may be white space around it, a plus sign and zeros at
its front, underscores between its digits, and a fraction that is zero. -/
def readInteger (text : String) : Except IntegerError Int :=
  let unsigned := match trimWhite text.toList with
    | '+' :: '-' :: _ => none
    | '+' :: ds => some ds
    | ds => some ds
  match unsigned.bind dropZeros with
  | some ds => plainInt (dropUnderscores (dropFraction ds))
  | none => .error .notANumeral

end CronPreview.Text
