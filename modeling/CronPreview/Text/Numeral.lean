/-
Decimal numerals: words of ASCII digits.

* `isNumeral`: at least one digit and nothing else;
* `value`: the number that a word of digits names, leading zeros allowed;
* `read`: the value, refused when the numeral has more than `maxDigits` digits;
* `render`, `renderInt`: the shortest numeral of a number;
* `padded`: a numeral filled up with zeros to a width;
* `WritableInt`: an integer that is written out where the user reads it, for which its numeral must not
  have more than `maxDigits` digits either.
-/

namespace CronPreview

/-- A numeral is too long to be converted. -/
structure LongNumeral where
  /-- How many digits it has, leading zeros included and a sign excluded. -/
  digits : Nat
deriving DecidableEq, Repr

namespace Numeral

/-- The longest numeral that is converted. -/
def maxDigits : Nat := 4300

/-- A numeral has at least one digit and nothing but digits. -/
def isNumeral (cs : List Char) : Bool :=
  !cs.isEmpty && cs.all Char.isDigit

/-- The number named by a word of digits, the most significant first. -/
def value (ds : List Char) : Nat :=
  ds.foldl (fun v d => 10 * v + (d.toNat - '0'.toNat)) 0

/-- The number named by a word of digits that is not too long. -/
def read (ds : List Char) : Except LongNumeral Nat :=
  if maxDigits < ds.length then .error ⟨ds.length⟩ else .ok (value ds)

/-- The numeral of a natural number, without leading zeros. -/
def render (n : Nat) : List Char :=
  Nat.toDigits 10 n

/-- The numeral of an integer, with a minus sign in front of a negative one. -/
def renderInt : Int → List Char
  | .ofNat n => render n
  | .negSucc n => '-' :: render (n + 1)

/-- The numeral of `n` with zeros in front up to `width` digits. -/
def padded (width n : Nat) : List Char :=
  let ds := render n
  List.replicate (width - ds.length) '0' ++ ds

end Numeral

/-- What is said first about a numeral that is too long to be read or written. -/
def Numeral.limitText : String :=
  "Exceeds the limit (" ++ String.ofList (Numeral.render Numeral.maxDigits)
    ++ " digits) for integer string conversion"

/-- What is said about a numeral that is too long. -/
def LongNumeral.message (n : LongNumeral) : String :=
  Numeral.limitText ++ ": value has " ++ String.ofList (Numeral.render n.digits)
    ++ " digits; use sys.set_int_max_str_digits() to increase the limit"

/-- An integer whose numeral is not too long to be written. -/
structure WritableInt where
  value : Int
  length_le : (Numeral.render value.natAbs).length ≤ Numeral.maxDigits
deriving DecidableEq

namespace WritableInt

/-- The integer, unless its numeral is too long. -/
def ofInt? (n : Int) : Option WritableInt :=
  if h : (Numeral.render n.natAbs).length ≤ Numeral.maxDigits then some ⟨n, h⟩ else none

/-- The numeral of the integer. -/
def text (n : WritableInt) : String := String.ofList (Numeral.renderInt n.value)

/-- What is said about an integer whose numeral is too long to be written. -/
def refusal : String :=
  Numeral.limitText ++ "; use sys.set_int_max_str_digits() to increase the limit"

end WritableInt

end CronPreview
