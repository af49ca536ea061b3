/-
A field of an expression: a comma-separated list of items, each trimmed of blanks.

* `Field.items`: the items of a field's text;
* `Field.parse`: the set of the values of all items, or the error of the first item that has one.
-/
import CronPreview.Field.Item
import CronPreview.Field.Set
import CronPreview.Text.Blank

namespace CronPreview.Field

/-- The comma items of a field, without the blanks around them. -/
def items (cs : List Char) : List (List Char) :=
  (Text.pieces (· == ',') cs).map Text.trim

/-- The set of values of a list of items. The first item with an error decides. -/
def expandAll (d : Domain) (is : List (List Char)) : Except ParseError FieldSet :=
  (is.mapM (Item.expand d)).map fun vs => .ofList vs.flatten

/-- The set of values that a field allows. Blanks around the field do not count, a blank field is
missing, and a lone star is the whole domain. -/
def parse (d : Domain) (cs : List Char) : Except ParseError FieldSet :=
  let field := Text.trim cs
  if field = [] then .error (.defect (.missingField d.name))
  else if field = ['*'] then .ok (.ofList (interval d.min d.max))
  else expandAll d (items field)

end CronPreview.Field
