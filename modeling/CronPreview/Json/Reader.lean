/-
Reading JSON text.

* `Json.ReadError`: text that is no JSON, and an integer that is too long to be converted;
* `Json.readString`: the rest of a string after its opening quote;
* `Json.readNumber`: an integer, or a number with a fraction or an exponent;
* `Json.read`: the value of a whole text.

A value is read by recursion on an amount of fuel that the length of the text bounds, because each
call has at least one character less to read.
-/
import CronPreview.Json.Basic

namespace CronPreview.Json

/-- Why a text was not read. -/
inductive ReadError where
  | malformed
  | longNumeral (n : LongNumeral)
deriving DecidableEq, Repr

/-- The text after the blanks that may stand between any two parts of a value. -/
def skipBlanks (cs : List Char) : List Char :=
  cs.dropWhile fun c => c == ' ' || c == '\t' || c == '\n' || c == '\r'

/-! ### Strings -/

/-- The value of a hexadecimal digit of either case. -/
def hexDigit? (c : Char) : Option Nat :=
  if c.isDigit then some (c.toNat - '0'.toNat)
  else if 'a' ≤ c ∧ c ≤ 'f' then some (c.toNat - 'a'.toNat + 10)
  else if 'A' ≤ c ∧ c ≤ 'F' then some (c.toNat - 'A'.toNat + 10)
  else none

/-- The number written with four hexadecimal digits. -/
def hex4? (a b c d : Char) : Option Nat := do
  let a ← hexDigit? a
  let b ← hexDigit? b
  let c ← hexDigit? c
  let d ← hexDigit? d
  return ((a * 16 + b) * 16 + c) * 16 + d

/-- The character that a one-letter escape stands for. -/
def escaped? : Char → Option Char
  | '"' => some '"'
  | '\\' => some '\\'
  | '/' => some '/'
  | 'b' => some '\x08'
  | 'f' => some '\x0c'
  | 'n' => some '\n'
  | 'r' => some '\r'
  | 't' => some '\t'
  | _ => none

/-- The code points of a string and the text after its closing quote; `acc` holds those already
read, the last one first. -/
def readCodes (acc : List Nat) : List Char → Option (List Nat × List Char)
  | [] => none
  | '"' :: cs => some (acc.reverse, cs)
  | '\\' :: 'u' :: a :: b :: c :: d :: cs =>
    match hex4? a b c d with
    | some n => readCodes (n :: acc) cs
    | none => none
  | '\\' :: c :: cs =>
    match escaped? c with
    | some e => readCodes (e.toNat :: acc) cs
    | none => none
  | c :: cs => if c.toNat < 0x20 then none else readCodes (c.toNat :: acc) cs

/-- Joins each high surrogate with the low one after it. A lone surrogate is no character and
becomes the replacement character. -/
def joinSurrogates : List Nat → List Char
  | [] => []
  | [n] => [if 0xd800 ≤ n ∧ n < 0xe000 then '\ufffd' else Char.ofNat n]
  | n :: m :: ns =>
    if 0xd800 ≤ n ∧ n < 0xdc00 ∧ 0xdc00 ≤ m ∧ m < 0xe000 then
      Char.ofNat (0x10000 + (n - 0xd800) * 0x400 + (m - 0xdc00)) :: joinSurrogates ns
    else
      (if 0xd800 ≤ n ∧ n < 0xe000 then '\ufffd' else Char.ofNat n) :: joinSurrogates (m :: ns)

/-- A string, after its opening quote. -/
def readString (cs : List Char) : Except ReadError (String × List Char) :=
  match readCodes [] cs with
  | some (codes, rest) => .ok (String.ofList (joinSurrogates codes), rest)
  | none => .error .malformed

/-! ### Numbers -/

/-- The digits after a point; there must be one. Without a point there is no fraction. -/
def readFraction : List Char → Except ReadError (Option (List Char) × List Char)
  | '.' :: cs =>
    match cs.takeWhile Char.isDigit with
    | [] => .error .malformed
    | ds => .ok (some ds, cs.dropWhile Char.isDigit)
  | cs => .ok (none, cs)

/-- The digits of an exponent after its sign; there must be one. -/
def readExponentDigits (negative : Bool) (cs : List Char) :
    Except ReadError (Option Int × List Char) :=
  match cs.takeWhile Char.isDigit with
  | [] => .error .malformed
  | ds =>
    let n : Int := Numeral.value ds
    .ok (some (if negative then -n else n), cs.dropWhile Char.isDigit)

/-- The exponent, which may have a sign. -/
def readExponent : List Char → Except ReadError (Option Int × List Char)
  | c :: cs =>
    if c = 'e' ∨ c = 'E' then
      match cs with
      | '-' :: ds => readExponentDigits true ds
      | '+' :: ds => readExponentDigits false ds
      | ds => readExponentDigits false ds
    else .ok (none, c :: cs)
  | [] => .ok (none, [])

/-- The double nearest to `m * 10 ^ e`. Beyond the range of doubles the size of the exponent does
not matter, so it is cut down to a size at which the power is easily computed. -/
def nearestReal (negative : Bool) (m : Nat) (e : Int) : Float :=
  let bound : Int := 400 + (Numeral.render m).length
  let e := max (-bound) (min bound e)
  let x := Float.ofScientific m (e < 0) e.natAbs
  if negative then -x else x

/-- A number: an integer, or a double if it has a fraction or an exponent. A zero at the front of
a numeral stands alone. -/
def readNumber (cs : List Char) : Except ReadError (Json × List Char) := do
  let (negative, cs) := match cs with
    | '-' :: ds => (true, ds)
    | ds => (false, ds)
  let whole := cs.takeWhile Char.isDigit
  if whole = [] ∨ (whole.head? = some '0' ∧ whole.length ≠ 1) then throw .malformed
  let (fraction, cs) ← readFraction (cs.dropWhile Char.isDigit)
  let (exponent, cs) ← readExponent cs
  match fraction, exponent with
  | none, none =>
    match Numeral.read whole with
    | .error n => throw (.longNumeral n)
    | .ok n => return (.integer (if negative then -(n : Int) else n), cs)
  | _, _ =>
    let ds := fraction.getD []
    return (.real (nearestReal negative (Numeral.value (whole ++ ds))
      (exponent.getD 0 - ds.length)), cs)

/-! ### Values -/

/-- The words that are values of their own; a number may also be infinite or undefined. -/
def literals : List (List Char × Json) :=
  [("null".toList, .null), ("true".toList, .bool true), ("false".toList, .bool false),
   ("NaN".toList, .real (0.0 / 0.0)), ("Infinity".toList, .real (1.0 / 0.0)),
   ("-Infinity".toList, .real (-1.0 / 0.0))]

/-- A literal or a number. -/
def readScalar (cs : List Char) : Except ReadError (Json × List Char) :=
  match literals.find? fun l => l.1.isPrefixOf cs with
  | some (word, v) => .ok (v, cs.drop word.length)
  | none => readNumber cs

mutual

/-- A value and the text after it. -/
def readValue : Nat → List Char → Except ReadError (Json × List Char)
  | 0, _ => .error .malformed
  | fuel + 1, cs =>
    match skipBlanks cs with
    | '"' :: cs => do
      let (s, cs) ← readString cs
      return (.string s, cs)
    | '[' :: cs =>
      match skipBlanks cs with
      | ']' :: cs => .ok (.array [], cs)
      | cs => do
        let (vs, cs) ← readElements fuel cs
        return (.array vs, cs)
    | '\x7b' :: cs =>
      match skipBlanks cs with
      | '\x7d' :: cs => .ok (.object [], cs)
      | cs => do
        let (ms, cs) ← readMembers fuel cs
        return (.object ms, cs)
    | cs => readScalar cs

/-- The elements of an array that is not empty, up to its closing bracket. -/
def readElements : Nat → List Char → Except ReadError (List Json × List Char)
  | 0, _ => .error .malformed
  | fuel + 1, cs => do
    let (v, cs) ← readValue fuel cs
    match skipBlanks cs with
    | ',' :: cs =>
      let (vs, cs) ← readElements fuel cs
      return (v :: vs, cs)
    | ']' :: cs => return ([v], cs)
    | _ => throw .malformed

/-- The members of an object that is not empty, up to its closing brace. -/
def readMembers : Nat → List Char → Except ReadError (List (String × Json) × List Char)
  | 0, _ => .error .malformed
  | fuel + 1, cs => do
    let '"' :: cs := skipBlanks cs | throw .malformed
    let (k, cs) ← readString cs
    let ':' :: cs := skipBlanks cs | throw .malformed
    let (v, cs) ← readValue fuel cs
    match skipBlanks cs with
    | ',' :: cs =>
      let (ms, cs) ← readMembers fuel cs
      return ((k, v) :: ms, cs)
    | '\x7d' :: cs => return ([(k, v)], cs)
    | _ => throw .malformed

end

/-- The value of a whole text, which may have blanks around it. -/
def read (text : String) : Except ReadError Json := do
  let cs := text.toList
  let (v, rest) ← readValue (2 * cs.length + 2) cs
  if skipBlanks rest = [] then return v else throw .malformed

end CronPreview.Json
