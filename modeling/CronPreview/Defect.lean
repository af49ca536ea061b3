/-
What can be wrong with the text of a cron expression.

* `ErrorKind`: the kinds of failure that a user is told about;
* `Defect`: a defect of the text, with the part of the text that it is about;
* `ParseError`: a defect, or a numeral too long to be converted, which is no defect of the text;
* `ItemError`: what is wrong with one comma item, before the item is named;
* `Defect.token`, `Defect.message`: the part of the text, and the sentence that names it.
-/
import CronPreview.Text.Numeral

namespace CronPreview

/-- The kinds of failure that a user is told about. -/
inductive ErrorKind where
  | wrongFieldCount
  | missingField
  | invalidStep
  | invalidToken
  | outOfRange
  | searchExhausted
deriving DecidableEq, Repr

namespace ErrorKind

/-- The name under which a kind is reported. -/
def name : ErrorKind → String
  | wrongFieldCount => "wrong_field_count"
  | missingField => "missing_field"
  | invalidStep => "invalid_step"
  | invalidToken => "invalid_token"
  | outOfRange => "out_of_range"
  | searchExhausted => "search_exhausted"

end ErrorKind

/-- A defect of the text of an expression, with the part of the text that it is about. -/
inductive Defect where
  /-- The text does not have five fields. -/
  | wrongFieldCount (text : String)
  /-- The field of this name is blank. -/
  | missingField (field : String)
  /-- The step of this item is not a positive numeral. -/
  | invalidStep (item : String)
  /-- An end of this item is neither a name nor a numeral. -/
  | invalidToken (item : String)
  /-- An end of this item lies outside its domain. -/
  | outOfRange (item : String)
deriving DecidableEq, Repr

namespace Defect

/-- The kind that a defect is reported under. -/
def kind : Defect → ErrorKind
  | wrongFieldCount _ => .wrongFieldCount
  | missingField _ => .missingField
  | invalidStep _ => .invalidStep
  | invalidToken _ => .invalidToken
  | outOfRange _ => .outOfRange

/-- The part of the text that a defect is about. -/
def token : Defect → String
  | wrongFieldCount t | missingField t | invalidStep t | invalidToken t | outOfRange t => t

/-- The sentence that tells the user about a defect. -/
def message : Defect → String
  | wrongFieldCount _ => "Cron must have exactly 5 fields"
  | missingField _ => "Missing field"
  | invalidStep item => "Invalid step: " ++ item
  | invalidToken item => "Invalid token: " ++ item
  | outOfRange item => "Out of range: " ++ item

end Defect

/-- Why a text was not read: it has a defect, or a numeral in it is too long to be converted. -/
inductive ParseError where
  | defect (d : Defect)
  | longNumeral (n : LongNumeral)
deriving DecidableEq, Repr

/-- What is wrong with one item of a field. -/
inductive ItemError where
  | invalidStep
  | invalidToken
  | outOfRange
  | longNumeral (n : LongNumeral)
deriving DecidableEq, Repr

/-- The error of an item, told of the item with this text. -/
def ItemError.within (item : List Char) : ItemError → ParseError
  | invalidStep => .defect (.invalidStep (String.ofList item))
  | invalidToken => .defect (.invalidToken (String.ofList item))
  | outOfRange => .defect (.outOfRange (String.ofList item))
  | longNumeral n => .longNumeral n

end CronPreview
