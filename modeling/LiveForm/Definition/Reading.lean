import LiveForm.Definition.Basic

/-!
# Definitions read from text and from values

Each structure of a definition is a `Record`: its members in the order of their declaration, and
what each does. The layout is read by recursion over the draft: a node's members are paired with
what they are as a list of nodes, which the member `children` then takes.
-/

namespace LiveForm

namespace Choice

def record : Record Draft Choice where
  name := "FieldOption"
  members := [("value", false), ("label", false)]
  start := ⟨.null, ""⟩
  put := fun key d x =>
    match key with
    | "value" => do return { x with value := ← d.any }
    | "label" => do return { x with label := ← d.text }
    | _ => return x
  skips := Draft.intact

end Choice

namespace RuleCall

def record : Record Draft RuleCall where
  name := "CustomRule"
  members := [("type", false), ("options", true)]
  start := ⟨"", .null⟩
  put := fun key d x =>
    match key with
    | "type" => do return { x with rule := ← d.text }
    | "options" => do return { x with options := ← d.any }
    | _ => return x
  skips := Draft.intact

end RuleCall

namespace Condition

def record : Record Draft Condition where
  name := "VisibilityRule"
  members := [("field", false), ("operator", false), ("value", true)]
  start := ⟨"", .ofName "", .null⟩
  put := fun key d x =>
    match key with
    | "field" => do return { x with field := ← d.text }
    | "operator" => do return { x with comparison := .ofName (← d.text) }
    | "value" => do return { x with value := ← d.any }
    | _ => return x
  skips := Draft.intact

end Condition

namespace Constraints

def record : Record Draft Constraints where
  name := "ValidationSpec"
  members :=
    [("required", true), ("minLength", true), ("maxLength", true), ("pattern", true),
     ("min", true), ("max", true), ("customRules", true)]
  start := {}
  put := fun key d x =>
    match key with
    | "required" => do return { x with required := ← d.optional Draft.flag }
    | "minLength" => do return { x with minLength := ← d.optional Draft.count }
    | "maxLength" => do return { x with maxLength := ← d.optional Draft.count }
    | "pattern" => do return { x with pattern := ← d.optional Draft.text }
    | "min" => do return { x with min := ← d.optional Draft.number }
    | "max" => do return { x with max := ← d.optional Draft.number }
    | "customRules" => do
      return { x with customRules := ← d.optional (Draft.list RuleCall.record.ofDraft) }
    | _ => return x
  skips := Draft.intact

end Constraints

namespace FieldDefinition

def record : Record Draft FieldDefinition where
  name := "FieldDefinition"
  members :=
    [("id", false), ("name", false), ("type", false), ("label", true), ("placeholder", true),
     ("instructions", true), ("defaultValue", true), ("options", true), ("validation", true),
     ("visibility", true)]
  start := ⟨"", "", .ofName "", "", none, none, none, none, none, none⟩
  put := fun key d x =>
    match key with
    | "id" => do return { x with id := ← d.text }
    | "name" => do return { x with name := ← d.text }
    | "type" => do return { x with kind := .ofName (← d.text) }
    | "label" => do return { x with label := ← d.text }
    | "placeholder" => do return { x with placeholder := ← d.optional Draft.text }
    | "instructions" => do return { x with instructions := ← d.optional Draft.text }
    | "defaultValue" => do return { x with defaultValue := ← d.optional Draft.any }
    | "options" => do
      return { x with choices := ← d.optional (Draft.list Choice.record.ofDraft) }
    | "validation" => do
      return { x with constraints := ← d.optional Constraints.record.ofDraft }
    | "visibility" => do
      return { x with visibility := ← d.optional (Draft.list Condition.record.ofDraft) }
    | _ => return x
  skips := Draft.intact

end FieldDefinition

/-- The members of a node of a layout, before it is known which kind of node it is. -/
structure NodeMembers where
  id : String := ""
  component : String := ""
  element : Option String := none
  attributes : Option (Keyed Json) := none
  children : Option (List LayoutNode) := none
  fieldId : Option String := none

namespace NodeMembers

/-- The node that the members make. -/
def node (x : NodeMembers) : Except ShapeError LayoutNode :=
  match x.component with
  | "field" =>
    match x.fieldId with
    | some fieldId => .ok (.field x.id fieldId)
    | none => .error (.refused ("layout node '" ++ x.id ++ "' is a field without fieldId"))
  | "container" =>
    .ok (.container x.id x.element (x.attributes.getD []) (x.children.getD []))
  | component => .ok (.unknown x.id component)

/-- A member comes with what it is as a list of nodes. -/
def record : Record (Draft × Except ShapeError (List LayoutNode)) NodeMembers where
  name := "RawLayoutNode"
  members :=
    [("id", true), ("component", false), ("element", true), ("attributes", true),
     ("children", true), ("fieldId", true)]
  start := {}
  put := fun key (d, nodes) x =>
    match key with
    | "id" => do return { x with id := ← d.text }
    | "component" => do return { x with component := ← d.text }
    | "element" => do return { x with element := ← d.optional Draft.text }
    | "attributes" => do return { x with attributes := ← d.optional Draft.map }
    | "children" => do return { x with children := ← d.optional fun _ => nodes }
    | "fieldId" => do return { x with fieldId := ← d.optional Draft.text }
    | _ => return x
  skips := fun (d, _) => d.intact

end NodeMembers

namespace LayoutNode

mutual

/-- Read a node. -/
def ofDraft : Draft → Except ShapeError LayoutNode
  | .obj members ending => (NodeMembers.record.ofMembers (pairMembers members) ending).bind
      NodeMembers.node
  | .arr items ending => (NodeMembers.record.ofItems (pairItems items) ending).bind
      NodeMembers.node
  | d => .error (NodeMembers.record.unexpected d)

/-- Read a list of nodes. -/
def listOfDraft : Draft → Except ShapeError (List LayoutNode)
  | .arr items ending => (ofDrafts items).bind (Draft.finish ending)
  | d => .error (d.unexpected "a sequence")

/-- Read node by node. -/
def ofDrafts : List Draft → Except ShapeError (List LayoutNode)
  | [] => .ok []
  | d :: rest =>
    match ofDraft d with
    | .error e => .error e
    | .ok node => (ofDrafts rest).map (node :: ·)

/-- Each member with what it is as a list of nodes. -/
def pairMembers : List (Option String × Draft) →
    List (Option String × Draft × Except ShapeError (List LayoutNode))
  | [] => []
  | (key, d) :: rest => (key, d, listOfDraft d) :: pairMembers rest

/-- Each item with what it is as a list of nodes. -/
def pairItems : List Draft → List (Draft × Except ShapeError (List LayoutNode))
  | [] => []
  | d :: rest => (d, listOfDraft d) :: pairItems rest

end

end LayoutNode

namespace FormConfig

def record : Record Draft FormConfig where
  name := "FormConfig"
  members := [("mode", true)]
  start := {}
  put := fun key d x =>
    match key with
    | "mode" => do return { x with mode := ← d.text }
    | _ => return x
  skips := Draft.intact

end FormConfig

namespace FormDefinition

def record : Record Draft FormDefinition where
  name := "FormDefinition"
  members :=
    [("formId", false), ("name", false), ("description", true), ("config", true),
     ("fields", true), ("layoutDefinition", false)]
  start := ⟨"", "", none, {}, [], default⟩
  put := fun key d x =>
    match key with
    | "formId" => do return { x with formId := ← d.text }
    | "name" => do return { x with name := ← d.text }
    | "description" => do return { x with description := ← d.optional Draft.text }
    | "config" => do return { x with config := ← FormConfig.record.ofDraft d }
    | "fields" => do return { x with fields := ← d.list FieldDefinition.record.ofDraft }
    | "layoutDefinition" => do return { x with layout := ← LayoutNode.ofDraft d }
    | _ => return x
  skips := Draft.intact

/-- Read a definition from a value. -/
def ofJson (v : Json) : Except ShapeError FormDefinition := record.ofDraft (Draft.ofJson v)

/-- Read a definition from a text. -/
def ofText (s : String) : Except ShapeError FormDefinition := record.ofText s

/-- Read a definition from a file. `read` gives the text of a path. -/
def load (read : String → Except FileError String) (path : String) :
    Except FormError FormDefinition :=
  match read path with
  | .error e => .error (.definition (.unreadable path e))
  | .ok s => (ofText s).mapError fun e => .definition (.shape e)

end FormDefinition

end LiveForm
