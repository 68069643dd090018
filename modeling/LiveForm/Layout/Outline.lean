import LiveForm.Json.Loose
import LiveForm.Layout.View
import LiveForm.State

/-!
# Outlines

An outline is the plain text of a view: a line for each node, indented by its level, and below the
line of a field its error, if it has one.
-/

namespace LiveForm

/-- The blanks in front of a line at a level. -/
def indentation (level : Nat) : String := String.ofList (List.replicate (2 * level) ' ')

/-- The text of a container or of a placeholder, without what is inside. -/
def containerLine (level : Nat) (nodeId element : String) (text : Option String) : String :=
  let heading := indentation level ++ "<" ++ element ++ " #" ++ nodeId ++ ">"
  match text with
  | some text => if text = "" then heading else heading ++ " " ++ text
  | none => heading

/-- The lines of a field: its label and value, and its error. -/
def fieldLines (level : Nat) (field : FieldDefinition) (state : FormState) : List String :=
  let marker := if field.isRequired then " *" else ""
  let value := ((state.value? field.name).map Json.display).getD ""
  (indentation level ++ field.label ++ marker ++ " [" ++ field.kind.name ++ "]: " ++ value) ::
    match state.error? field.name with
    | some error => [indentation (level + 1) ++ "! " ++ error]
    | none => []

namespace ViewNode

mutual

/-- The lines of a view at a level. -/
def lines (state : FormState) (level : Nat) : ViewNode → List String
  | .field _ shown _ => fieldLines level shown state
  | .container nodeId element _ text children =>
    containerLine level nodeId element text :: linesAll state (level + 1) children
  | .placeholder _ diagnostic => [indentation level ++ "?? " ++ diagnostic.message]

/-- The lines of several views at a level. -/
def linesAll (state : FormState) (level : Nat) : List ViewNode → List String
  | [] => []
  | node :: rest => node.lines state level ++ linesAll state level rest

end

/-- The outline of a view. Every line has an end. -/
def outline (node : ViewNode) (state : FormState) : String :=
  String.join ((node.lines state 0).map fun line => line ++ "\n")

end ViewNode

/-- What was drawn last: an outline, a message, and how often it was drawn. -/
structure Drawing where
  outline : String := ""
  message : Option StatusMessage := none
  renders : Nat := 0
deriving DecidableEq

namespace Drawing

/-- Draw a view. Where nothing is shown the outline is empty. -/
def render (d : Drawing) (view : Option ViewNode) (state : FormState) : Drawing :=
  { d with
    outline := (view.map fun v => v.outline state).getD ""
    renders := d.renders + 1 }

/-- Show a message in place of the one before. -/
def tell (d : Drawing) (m : StatusMessage) : Drawing := { d with message := some m }

/-- Take a message away, if it is the one that is shown. -/
def clear (d : Drawing) (id : Nat) : Drawing :=
  if d.message.any fun m => m.id == id then { d with message := none } else d

end Drawing

end LiveForm
