/-
Blank characters, and the layout of text that they make.

* `isWhite`: white space;
* `isBlank`: the blank characters: white space and the four information separators;
* `words`: the longest stretches of text without a blank;
* `trim`: the text without the blanks at its two ends;
* `trimWhite`: the text without the white space at its two ends.
-/
import CronPreview.Text.Pieces

namespace CronPreview.Text

/-- White space is a control character that lays text out (`U+0009` to `U+000D`, `U+0085`), a space
of some width, or a line or paragraph separator. -/
def isWhite (c : Char) : Bool :=
  let n := c.toNat
  (0x09 ≤ n && n ≤ 0x0d) || n == 0x20 || n == 0x85 || n == 0xa0 || n == 0x1680
    || (0x2000 ≤ n && n ≤ 0x200a) || n == 0x2028 || n == 0x2029 || n == 0x202f || n == 0x205f
    || n == 0x3000

/-- A blank is white space or an information separator (`U+001C` to `U+001F`). -/
def isBlank (c : Char) : Bool :=
  isWhite c || (0x1c ≤ c.toNat && c.toNat ≤ 0x1f)

/-- The longest stretches of text without a blank, in order. -/
def words (cs : List Char) : List (List Char) :=
  (pieces isBlank cs).filter fun w => !w.isEmpty

/-- The text without the blanks at its end. -/
def trimEnd (cs : List Char) : List Char :=
  (cs.reverse.dropWhile isBlank).reverse

/-- The text without the blanks at its two ends. -/
def trim (cs : List Char) : List Char :=
  trimEnd (cs.dropWhile isBlank)

/-- The text without the white space at its two ends. -/
def trimWhite (cs : List Char) : List Char :=
  ((cs.dropWhile isWhite).reverse.dropWhile isWhite).reverse

/-- The words of a text with one space between neighbours. -/
def respaced (cs : List Char) : List Char :=
  [' '].intercalate (words cs)

end CronPreview.Text
