/-
What can be wrong with the body of a request.

* `Fault`: the ways in which a value is not what it should be;
* `Complaint`: a fault, and the member of the body that has it, if it is not the whole body;
* `Complaint.toJson`: how a client is told.
-/
import CronPreview.Json.Basic

namespace CronPreview.Service

/-- The ways in which a value is not what it should be. -/
inductive Fault where
  | jsonInvalid
  | missing
  | notAnObject
  | notAString
  | tooLong
  | fractional
  | notANumeral
  | numeralTooLong
  | notAnInteger
  | notFinite
  | tooSmall
  | tooLarge
  | notAMoment
  | momentOutOfRange
  | momentUnreadable
deriving DecidableEq, Repr

/-- The name under which a fault is reported. -/
def Fault.name : Fault → String
  | jsonInvalid => "json_invalid"
  | missing => "missing"
  | notAnObject => "model_attributes_type"
  | notAString => "string_type"
  | tooLong => "string_too_long"
  | fractional => "int_from_float"
  | notANumeral => "int_parsing"
  | numeralTooLong => "int_parsing_size"
  | notAnInteger => "int_type"
  | notFinite => "finite_number"
  | tooSmall => "greater_than_equal"
  | tooLarge => "less_than_equal"
  | notAMoment => "datetime_type"
  | momentOutOfRange => "datetime_parsing"
  | momentUnreadable => "datetime_from_date_parsing"

/-- A fault, with the member of the body that has it; without one the body itself is at fault. -/
structure Complaint where
  fault : Fault
  member : Option String := none
deriving DecidableEq, Repr

/-- The report of a complaint. -/
def Complaint.toJson (c : Complaint) : Json :=
  .object
    [("type", .string c.fault.name),
     ("loc", .array (("body" :: c.member.toList).map .string))]

end CronPreview.Service
