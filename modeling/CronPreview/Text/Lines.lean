/-
Lines of text.

* `isLineEnd`: the characters that end a line; a return and a line feed after it end it together;
* `lines`: the lines of a text; what ends the last one does not begin another;
* `firstLine`: what the first line of a text holds.
-/
import CronPreview.Text.Pieces

namespace CronPreview.Text

/-- The characters that end a line. -/
def isLineEnd (c : Char) : Bool :=
  let n := c.toNat
  (0x0a ≤ n && n ≤ 0x0d) || (0x1c ≤ n && n ≤ 0x1e) || n == 0x85 || n == 0x2028 || n == 0x2029

/-- The text with a line feed for each return and line feed together. -/
def joinLineEnds : List Char → List Char
  | '\r' :: '\n' :: cs => '\n' :: joinLineEnds cs
  | c :: cs => c :: joinLineEnds cs
  | [] => []

/-- The lines of a text. -/
def lines (cs : List Char) : List (List Char) :=
  let ls := pieces isLineEnd (joinLineEnds cs)
  if ls.getLast? = some [] then ls.dropLast else ls

/-- What the first line of a text holds. -/
def firstLine (cs : List Char) : List Char :=
  cs.takeWhile fun c => !isLineEnd c

end CronPreview.Text
