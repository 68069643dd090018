import LiveForm.Definition.Writing
import LiveForm.Layout.Widget

/-!
# What a layout shows

A layout is resolved into a view: fields with their widgets, containers, and placeholders where a
node cannot be shown. A slot for a field that is hidden leaves nothing. `LayoutNode.resolve` fails
only when the layout has more levels than allowed, and then names the first node that is too deep.
-/

namespace LiveForm

/-- Why a node is shown as a placeholder. -/
inductive Diagnostic where
  | unknownField (fieldId : String)
  | unknownFieldType (fieldId typeName : String)
  | unknownComponent (component : String)
deriving DecidableEq

namespace Diagnostic

def message : Diagnostic → String
  | unknownField fieldId => "Field with ID " ++ fieldId ++ " not found"
  | unknownFieldType _ typeName => "Unknown field type: " ++ typeName
  | unknownComponent component => "Unknown layout component: " ++ component

def toJson : Diagnostic → Json
  | unknownField fieldId => .obj [("fieldId", .str fieldId), ("reason", .str "unknownField")]
  | unknownFieldType fieldId typeName =>
    .obj
      [("fieldId", .str fieldId), ("reason", .str "unknownFieldType"), ("typeName", .str typeName)]
  | unknownComponent component =>
    .obj [("component", .str component), ("reason", .str "unknownComponent")]

end Diagnostic

/-- A node that is shown. -/
inductive ViewNode where
  | field (nodeId : String) (field : FieldDefinition) (widget : Widget)
  | container (nodeId element : String) (attributes : List (String × Json)) (text : Option String)
    (children : List ViewNode)
  | placeholder (nodeId : String) (diagnostic : Diagnostic)

namespace ViewNode

/-- The identifier of the node of the layout. -/
def nodeId : ViewNode → String
  | .field nodeId _ _ | .container nodeId _ _ _ _ | .placeholder nodeId _ => nodeId

/-- The nodes inside a node. -/
def children : ViewNode → List ViewNode
  | .container _ _ _ _ children => children
  | _ => []

mutual

/-- The nodes of a view, each before those inside it. -/
def preorder : ViewNode → List ViewNode
  | .container nodeId element attributes text children =>
    .container nodeId element attributes text children :: preorderAll children
  | node => [node]

/-- The nodes of several views, one view after the other. -/
def preorderAll : List ViewNode → List ViewNode
  | [] => []
  | node :: rest => node.preorder ++ preorderAll rest

end

/-- The identifier of the field that a node shows. -/
def fieldId? : ViewNode → Option String
  | .field _ shown _ => some shown.id
  | _ => none

/-- The diagnostic of a placeholder. -/
def diagnostic? : ViewNode → Option Diagnostic
  | .placeholder _ diagnostic => some diagnostic
  | _ => none

/-- The identifiers of the fields that are shown, in their order. -/
def fieldIds (node : ViewNode) : List String := node.preorder.filterMap fieldId?

/-- The diagnostics of the placeholders, in their order. -/
def diagnostics (node : ViewNode) : List Diagnostic := node.preorder.filterMap diagnostic?

/-- The first node with an identifier. -/
def find? (node : ViewNode) (nodeId : String) : Option ViewNode :=
  node.preorder.find? fun n => n.nodeId == nodeId

mutual

def toJson : ViewNode → Json
  | .field nodeId shown widget =>
    .obj
      [("field", shown.toJson), ("kind", .str "field"), ("nodeId", .str nodeId),
       ("widget", widget.toJson)]
  | .container nodeId element attributes text children =>
    .obj
      [("attributes", .obj attributes), ("children", .arr (listToJson children)),
       ("element", .str element), ("kind", .str "container"), ("nodeId", .str nodeId),
       ("text", (text.map Json.str).getD .null)]
  | .placeholder nodeId diagnostic =>
    .obj
      [("diagnostic", diagnostic.toJson), ("kind", .str "placeholder"), ("nodeId", .str nodeId)]

def listToJson : List ViewNode → List Json
  | [] => []
  | node :: rest => node.toJson :: listToJson rest

end

end ViewNode

/-- What a resolution reads: the form, which of its fields are shown, and the widgets. -/
structure LayoutContext where
  definition : FormDefinition
  visibility : Keyed Bool
  widgets : WidgetRegistry

namespace LayoutContext

/-- The field with an identifier; of several the last. -/
def field? (ctx : LayoutContext) (id : String) : Option FieldDefinition :=
  ctx.definition.fields.reverse.find? fun f => f.id == id

/-- Whether a field is shown. One that nothing is said about is. -/
def isVisible (ctx : LayoutContext) (id : String) : Bool :=
  (Keyed.find? ctx.visibility id).getD true

/-- The widget of a field. A checkbox has several boxes when the field offers choices. -/
def widget? (ctx : LayoutContext) (field : FieldDefinition) : Option Widget :=
  (ctx.widgets.lookup field.kind).map fun widget =>
    match widget with
    | .checkbox _ => .checkbox (!field.offered.isEmpty)
    | widget => widget

/-- What a slot for a field shows. -/
def slot (ctx : LayoutContext) (nodeId fieldId : String) : Option ViewNode :=
  match ctx.field? fieldId with
  | none => some (.placeholder nodeId (.unknownField fieldId))
  | some field =>
    if ctx.isVisible fieldId then
      match ctx.widget? field with
      | some widget => some (.field nodeId field widget)
      | none => some (.placeholder nodeId (.unknownFieldType fieldId field.kind.name))
    else none

/-- The text of an empty container that is named for the title or the subtitle of the form. -/
def text? (ctx : LayoutContext) (nodeId : String) (childless : Bool) : Option String :=
  if !childless then none
  else if nodeId = "title" then
    some (if ctx.definition.name = "" then "Form" else ctx.definition.name)
  else if nodeId = "subtitle" then some (ctx.definition.description.getD "")
  else none

end LayoutContext

namespace LayoutNode

mutual

/-- Resolve a node at a level. `none` is a slot for a field that is hidden. -/
def resolveAt (ctx : LayoutContext) (max level : Nat) :
    LayoutNode → Except FormError (Option ViewNode)
  | .field id fieldId =>
    if max < level then .error (.malformedLayout id max) else .ok (ctx.slot id fieldId)
  | .container id element attributes children =>
    if max < level then .error (.malformedLayout id max)
    else
      match resolveAll ctx max (level + 1) children with
      | .error e => .error e
      | .ok resolved =>
        .ok (some (.container id (element.getD "div") attributes
          (ctx.text? id children.isEmpty) resolved))
  | .unknown id component =>
    if max < level then .error (.malformedLayout id max)
    else .ok (some (.placeholder id (.unknownComponent component)))

/-- Resolve several nodes at a level. -/
def resolveAll (ctx : LayoutContext) (max level : Nat) :
    List LayoutNode → Except FormError (List ViewNode)
  | [] => .ok []
  | node :: rest =>
    match resolveAt ctx max level node with
    | .error e => .error e
    | .ok shown =>
      match resolveAll ctx max level rest with
      | .error e => .error e
      | .ok others => .ok (shown.toList ++ others)

end

/-- Resolve a layout of at most a number of levels. -/
def resolve (node : LayoutNode) (ctx : LayoutContext) (max : Nat) :
    Except FormError (Option ViewNode) :=
  resolveAt ctx max 1 node

end LayoutNode

end LiveForm
