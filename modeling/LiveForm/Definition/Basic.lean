import LiveForm.Definition.Field
import LiveForm.Definition.Layout
import LiveForm.FormError

/-!
# Form definitions

A definition has fields and a layout with slots for them. `FormDefinition.check` accepts it when no
two fields share an identifier and the layout has at most `maxLayoutDepth` levels. A slot for a
field that is not declared is no error; `unresolvedFieldIds` lists those.
-/

namespace LiveForm

/-- The greatest number of levels of a layout. -/
def maxLayoutDepth : Nat := 64

/-- How a form is used. -/
structure FormConfig where
  mode : String := "input"
deriving DecidableEq

/-- A form: its fields and their layout. -/
structure FormDefinition where
  formId : String
  name : String
  description : Option String := none
  config : FormConfig := {}
  fields : List FieldDefinition := []
  layout : LayoutNode

namespace FormDefinition

/-- The first field with an identifier. -/
def field? (d : FormDefinition) (id : String) : Option FieldDefinition :=
  d.fields.find? fun f => f.id == id

/-- The first field with a name. -/
def fieldNamed? (d : FormDefinition) (name : String) : Option FieldDefinition :=
  d.fields.find? fun f => f.name == name

/-- The first identifier that a field before it has too. -/
def duplicateId? (d : FormDefinition) : Option String :=
  go [] d.fields
where
  go (seen : List String) : List FieldDefinition → Option String
    | [] => none
    | f :: rest => if seen.contains f.id then some f.id else go (f.id :: seen) rest

/-- Whether the definition can be used, apart from its patterns. -/
def check (d : FormDefinition) : Except FormError Unit :=
  match d.duplicateId? with
  | some id => .error (.definition (.duplicateField id d.formId))
  | none =>
    if maxLayoutDepth < d.layout.depth then .error (.malformedLayout d.layout.id maxLayoutDepth)
    else .ok ()

/-- The fields that the layout has slots for and that are not declared, in the order of the
slots. -/
def unresolvedFieldIds (d : FormDefinition) : List String :=
  (d.layout.preorder.filterMap LayoutNode.fieldId?).filter fun id => (d.field? id).isNone

end FormDefinition

end LiveForm
