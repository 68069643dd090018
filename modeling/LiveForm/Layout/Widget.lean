import LiveForm.Definition.Field

/-!
# Widgets

A widget says what a renderer should show for a field of some kind. The registry has widgets by the
names of the kinds; the built-in one has all kinds that have a meaning of their own.
-/

namespace LiveForm

/-- What to show for a field. -/
inductive Widget where
  /-- One line of text of a type. -/
  | input (inputType : String)
  | textArea (rows : Nat)
  | select
  /-- One box, or one for each choice. -/
  | checkbox (multiple : Bool)
  | radio
  | date
  | custom (name : String)
deriving DecidableEq

def Widget.toJson : Widget → Json
  | input inputType => .obj [("inputType", .str inputType), ("widget", .str "input")]
  | textArea rows => .obj [("rows", .ofNat rows), ("widget", .str "textArea")]
  | select => .obj [("widget", .str "select")]
  | checkbox multiple => .obj [("multiple", .bool multiple), ("widget", .str "checkbox")]
  | radio => .obj [("widget", .str "radio")]
  | date => .obj [("widget", .str "date")]
  | custom name => .obj [("name", .str name), ("widget", .str "custom")]

/-- Widgets by the names of the kinds of fields. -/
abbrev WidgetRegistry := Keyed Widget

namespace WidgetRegistry

def empty : WidgetRegistry := []

/-- The widget of a kind that has a meaning of its own. -/
def builtin? : FieldKind → Option Widget
  | .textarea => some (.textArea 4)
  | .select => some .select
  | .checkbox => some (.checkbox false)
  | .radio => some .radio
  | .date => some .date
  | .other _ => none
  | kind => some (.input kind.name)

/-- The widgets of all built-in kinds. -/
def builtins : WidgetRegistry :=
  Keyed.ofPairs (FieldKind.builtins.filterMap fun kind =>
    (builtin? kind).map fun widget => (kind.name, widget))

/-- Register a widget for a kind. The one it replaces is given back. -/
def register (widgets : WidgetRegistry) (kind : String) (widget : Widget) :
    Option Widget × WidgetRegistry :=
  (Keyed.find? widgets kind, Keyed.insert widgets kind widget)

/-- The widget of a kind. -/
def lookup (widgets : WidgetRegistry) (kind : FieldKind) : Option Widget :=
  Keyed.find? widgets kind.name

end WidgetRegistry

end LiveForm
