import LiveForm.Definition.Basic
import LiveForm.Json.Loose
import LiveForm.Json.Path
import LiveForm.Text.Search

/-!
# Which fields are shown

A field is shown when all of its conditions hold of the form's data. A value that is not there
counts as `null`, except when it is compared by size: `null` is zero as a number, and a value that is
not there is no number, so it is neither greater nor less than any. A comparison without a meaning
holds: a slip in a definition shows a field too many rather than one too few.
-/

namespace LiveForm

namespace Comparison

/-- Whether the text of a value contains that of another. -/
def textContains (value : Option Json) (needle : Json) : Bool :=
  value.any fun v => Text.contains v.display needle.display

/-- A value that counts as a no, or whose text is blank. -/
def isVoid (value : Option Json) : Bool :=
  !Json.isTruthy value || value.all fun v => Text.isBlank v.display

/-- Whether a value compares with the one of a condition. -/
def holds (comparison : Comparison) (value : Option Json) (other : Json) : Bool :=
  match comparison with
  | equals => Json.equals value other
  | notEquals => !Json.equals value other
  | contains => Json.isTruthy value && textContains value other
  | notContains => !Json.isTruthy value || !textContains value other
  | greaterThan => other.number.lt (Json.toNumber value)
  | lessThan => (Json.toNumber value).lt other.number
  | isEmpty => isVoid value
  | isNotEmpty => !isVoid value
  | inArray => other.itemsOf.any fun item => Json.equals value item
  | unrecognized _ => true

end Comparison

/-- Whether a condition holds of the data. -/
def Condition.holds (c : Condition) (data : Json) : Bool :=
  c.comparison.holds (data.get? c.field) c.value

/-- Whether a field is shown with the data. -/
def FieldDefinition.isVisible (f : FieldDefinition) (data : Json) : Bool :=
  f.conditions.all fun c => c.holds data

/-- Whether each field is shown, by its identifier. -/
def visibilityMap (fields : List FieldDefinition) (data : Json) : Keyed Bool :=
  Keyed.ofPairs (fields.map fun f => (f.id, f.isVisible data))

end LiveForm
