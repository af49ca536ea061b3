/-
JSON values.

* `Json`: the values; an integer is exact, and any other number is the nearest double;
* `Json.member?`: the value of a key, the last one when the key is repeated;
* `Json.write`: the text of a value, in ASCII and without blanks.
-/
import CronPreview.Text.Numeral

namespace CronPreview

/-- A JSON value. The members of an object are kept as they were written. -/
inductive Json where
  | null
  | bool (b : Bool)
  /-- A number without a fraction and an exponent. -/
  | integer (n : Int)
  /-- Any other number. -/
  | real (x : Float)
  | string (s : String)
  | array (elements : List Json)
  | object (members : List (String × Json))
deriving Inhabited

namespace Json

/-- The value of a key of an object; of a repeated key the last value counts. -/
def member? (key : String) : Json → Option Json
  | object members => members.reverse.lookup key
  | _ => none

/-- The lower-case hexadecimal digits of a number below 65536, four of them. -/
def hex4 (n : Nat) : List Char :=
  [n / 4096 % 16, n / 256 % 16, n / 16 % 16, n % 16].map Nat.digitChar

/-- A character as it stands between the quotes of a string. What is not printable ASCII is written
as an escape, and beyond the first plane as two, one for each surrogate. -/
def escape (c : Char) : List Char :=
  if c = '"' then ['\\', '"']
  else if c = '\\' then ['\\', '\\']
  else if 0x20 ≤ c.toNat ∧ c.toNat < 0x7f then [c]
  else if c.toNat < 0x10000 then '\\' :: 'u' :: hex4 c.toNat
  else
    let n := c.toNat - 0x10000
    ('\\' :: 'u' :: hex4 (0xd800 + n / 0x400)) ++ '\\' :: 'u' :: hex4 (0xdc00 + n % 0x400)

/-- A string with its quotes. -/
def quote (s : String) : String :=
  String.ofList ('"' :: s.toList.flatMap escape ++ ['"'])

/-- The text of a number that is not an integer. A double is a binary fraction, and so it has an
exact decimal form: a numeral and an exponent. -/
def writeReal (x : Float) : String :=
  if x.isNaN then "NaN"
  else
    let bits := x.toBits.toNat
    let sign := if bits >>> 63 = 0 then "" else "-"
    let exponent := (bits >>> 52) % 2048
    let fraction := bits % (1 <<< 52)
    let digits (n : Nat) : String := String.ofList (Numeral.render n)
    if exponent = 2047 then sign ++ "Infinity"
    else
      let m := if exponent = 0 then fraction else (1 <<< 52) + fraction
      let e := max 1 exponent
      if e < 1075 then sign ++ digits (m * Nat.pow 5 (1075 - e)) ++ "e-" ++ digits (1075 - e)
      else sign ++ digits (m <<< (e - 1075)) ++ ".0"

mutual

/-- The text of a value. -/
def write : Json → String
  | null => "null"
  | bool true => "true"
  | bool false => "false"
  | integer n => String.ofList (Numeral.renderInt n)
  | real x => writeReal x
  | string s => quote s
  | array elements => "[" ++ ",".intercalate (writeElements elements) ++ "]"
  | object members => "\x7b" ++ ",".intercalate (writeMembers members) ++ "\x7d"

/-- The texts of the elements of an array. -/
def writeElements : List Json → List String
  | [] => []
  | v :: vs => write v :: writeElements vs

/-- The texts of the members of an object. -/
def writeMembers : List (String × Json) → List String
  | [] => []
  | (k, v) :: ms => (quote k ++ ":" ++ write v) :: writeMembers ms

end

end Json

end CronPreview
