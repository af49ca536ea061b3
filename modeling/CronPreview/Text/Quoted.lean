/-
Quoted text, as it stands in messages that show what was typed.

* `quotedChar`: a character between quotes; one that cannot be seen is written as an escape;
* `quoted`: a text in single quotes, or in double quotes if that saves escapes.
-/
import CronPreview.Text.Printable

namespace CronPreview.Text

/-- The hexadecimal digits of a number, `width` of them. -/
def hexDigits : (width n : Nat) → List Char
  | 0, _ => []
  | width + 1, n => hexDigits width (n / 16) ++ [Nat.digitChar (n % 16)]

/-- A character as it stands between quotes of this kind. -/
def quotedChar (quote c : Char) : List Char :=
  if c = quote ∨ c = '\\' then ['\\', c]
  else if c = '\t' then ['\\', 't']
  else if c = '\n' then ['\\', 'n']
  else if c = '\r' then ['\\', 'r']
  else if isPrintable c then [c]
  else if c.toNat < 0x100 then '\\' :: 'x' :: hexDigits 2 c.toNat
  else if c.toNat < 0x10000 then '\\' :: 'u' :: hexDigits 4 c.toNat
  else '\\' :: 'U' :: hexDigits 8 c.toNat

/-- A text in quotes. The quotes are double when the text holds single ones and no double ones. -/
def quoted (cs : List Char) : List Char :=
  let quote := if '\'' ∈ cs ∧ '"' ∉ cs then '"' else '\''
  quote :: cs.flatMap (quotedChar quote) ++ [quote]

end CronPreview.Text
