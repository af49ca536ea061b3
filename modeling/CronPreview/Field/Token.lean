/-
Tokens: the numerals and names that stand for one value.

* `Token.readInt`: an integer numeral, with a minus sign or without a sign;
* `Token.resolve`: the value of a token, which is looked up among the names first.
-/
import CronPreview.Defect
import CronPreview.Field.Domain
import CronPreview.Text.Lower

namespace CronPreview.Token

/-- The integer that a numeral stands for, after a minus sign if there is one. -/
def readInt : List Char → Except ItemError Int
  | '-' :: ds =>
    if Numeral.isNumeral ds then
      ((Numeral.read ds).map fun (n : Nat) => -(n : Int)).mapError .longNumeral
    else .error .invalidToken
  | ds =>
    if Numeral.isNumeral ds then
      ((Numeral.read ds).map fun (n : Nat) => (n : Int)).mapError .longNumeral
    else .error .invalidToken

/-- The value of a token. A name stands for its entry in the table, moved on by `offset`; letter
case does not matter in a name. Anything else must be a numeral, which stands for itself. -/
def resolve (names : Option NameTable) (offset : Int) (cs : List Char) : Except ItemError Int :=
  match names.bind fun t => t.find? (String.ofList (Text.lower cs)) with
  | some v => .ok (v + offset)
  | none => readInt cs

end CronPreview.Token
