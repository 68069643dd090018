import LiveForm.Definition.Basic

/-!
# Definitions written as values

A structure is written as an object whose members are in the order of their names. A member that
has no value is left out; a list that is given but empty is not.
-/

namespace LiveForm

namespace Json

/-- A member that is always written. -/
def member (key : String) (v : Json) : List (String × Json) := [(key, v)]

/-- A member that is written when it has a value. -/
def memberIf (key : String) : Option Json → List (String × Json)
  | some v => [(key, v)]
  | none => []

end Json

open Json (member memberIf)

namespace Choice

def toJson (c : Choice) : Json := .obj [("label", .str c.label), ("value", c.value)]

end Choice

namespace RuleCall

def toJson (c : RuleCall) : Json := .obj [("options", c.options), ("type", .str c.rule)]

end RuleCall

namespace Condition

def toJson (c : Condition) : Json :=
  .obj [("field", .str c.field), ("operator", .str c.comparison.name), ("value", c.value)]

end Condition

namespace Constraints

/-- The constraints as a value, which is also what the rules are given. -/
def toJson (c : Constraints) : Json :=
  .obj
    (memberIf "customRules" (c.customRules.map fun calls => .arr (calls.map RuleCall.toJson)) ++
     memberIf "max" (c.max.map Json.ofBinary64) ++
     memberIf "maxLength" (c.maxLength.map fun n => .num (.ofUInt64 n)) ++
     memberIf "min" (c.min.map Json.ofBinary64) ++
     memberIf "minLength" (c.minLength.map fun n => .num (.ofUInt64 n)) ++
     memberIf "pattern" (c.pattern.map Json.str) ++
     memberIf "required" (c.required.map Json.bool))

end Constraints

namespace FieldDefinition

def toJson (f : FieldDefinition) : Json :=
  .obj
    (memberIf "defaultValue" f.defaultValue ++
     member "id" (.str f.id) ++
     memberIf "instructions" (f.instructions.map Json.str) ++
     member "label" (.str f.label) ++
     member "name" (.str f.name) ++
     memberIf "options" (f.choices.map fun choices => .arr (choices.map Choice.toJson)) ++
     memberIf "placeholder" (f.placeholder.map Json.str) ++
     member "type" (.str f.kind.name) ++
     memberIf "validation" (f.constraints.map Constraints.toJson) ++
     memberIf "visibility" (f.visibility.map fun cs => .arr (cs.map Condition.toJson)))

end FieldDefinition

namespace LayoutNode

mutual

def toJson : LayoutNode → Json
  | .field id fieldId =>
    .obj [("component", .str "field"), ("fieldId", .str fieldId), ("id", .str id)]
  | .container id element attributes children =>
    .obj
      (member "attributes" (.obj attributes) ++
       member "children" (.arr (listToJson children)) ++
       member "component" (.str "container") ++
       memberIf "element" (element.map Json.str) ++
       member "id" (.str id))
  | .unknown id component => .obj [("component", .str component), ("id", .str id)]

def listToJson : List LayoutNode → List Json
  | [] => []
  | node :: rest => node.toJson :: listToJson rest

end

end LayoutNode

namespace FormDefinition

def toJson (d : FormDefinition) : Json :=
  .obj
    (member "config" (.obj [("mode", .str d.config.mode)]) ++
     memberIf "description" (d.description.map Json.str) ++
     member "fields" (.arr (d.fields.map FieldDefinition.toJson)) ++
     member "formId" (.str d.formId) ++
     member "layoutDefinition" d.layout.toJson ++
     member "name" (.str d.name))

end FormDefinition

end LiveForm
