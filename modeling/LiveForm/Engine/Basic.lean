import LiveForm.Engine.Options
import LiveForm.Layout.Outline
import LiveForm.Rules.Validation
import LiveForm.Rules.Visibility

/-!
# The engine of a form

An `Engine` holds one form while it is filled in: its definition, its state, what of it is shown and
how it was drawn last. Every change is made as a whole and ends with the events that tell of it, in
the order in which they happened (`Engine.update`). Whoever drives the engine dispatches them
afterwards, so that those who listen may call the engine again.

After each change that can be seen the view is made anew and drawn (`Engine.rebuild`).

A change that puts values in has no result where the program stops, as it does of the state
(`Engine.update?`).
-/

namespace LiveForm

/-- A form while it is filled in. -/
structure Engine where
  options : EngineOptions := {}
  validator : Validator := {}
  widgets : WidgetRegistry := .builtins
  /-- There is a clock, by which messages go away again. -/
  timed : Bool := true
  status : FormStatus := .idle
  definition : Option FormDefinition := none
  state : FormState := {}
  /-- Whether each field is shown, by its identifier. -/
  visibility : Keyed Bool := []
  view : Option ViewNode := none
  /-- The fields whose defaults were put in, or found to be in the way. -/
  seeded : List String := []
  message : Option StatusMessage := none
  /-- The number of messages so far. It is meant to stay below 2⁶⁴, as the word that counts them
  does. -/
  messages : Nat := 0
  /-- The messages whose time is running. -/
  timers : List Nat := []
  drawing : Option Drawing := none
  /-- Events of the engine, with those of the state before them. -/
  outbox : List FormEvent := []
  /-- A submission is under way. -/
  submitting : Bool := false
  /-- The number of loads so far, below 2⁶⁴ like that of the messages. -/
  loads : Nat := 0

namespace Engine

/-! ## Events -/

/-- Add an event behind all that wait. -/
def push (e : Engine) (event : FormEvent) : Engine :=
  let (queued, state) := e.state.drain
  { e with state := state, outbox := e.outbox ++ queued ++ [event] }

/-- Take all events that wait. -/
def drain (e : Engine) : List FormEvent × Engine :=
  let (queued, state) := e.state.drain
  (e.outbox ++ queued, { e with state := state, outbox := [] })

/-- Change the engine as a whole. The events are given back for dispatch. -/
def update {α : Type} (e : Engine) (change : Engine → α × Engine) : α × List FormEvent × Engine :=
  let (answer, e) := change e
  let (events, e) := e.drain
  (answer, events, e)

/-- Change the engine as a whole by a change that need not have a result. -/
def update? {α : Type} (e : Engine) (change : Engine → Option (α × Engine)) :
    Option (α × List FormEvent × Engine) :=
  (change e).map fun (answer, e) => (answer, e.drain)

/-- An event that is added comes last. -/
theorem drain_push (e : Engine) (event : FormEvent) :
    (e.push event).drain.1 = e.drain.1 ++ [event] := by
  simp [push, drain, FormState.drain]

/-- Nothing waits after the events were taken. -/
theorem drain_drain (e : Engine) : e.drain.2.drain.1 = [] := by
  simp [drain, FormState.drain]

/-- Go to a status, and tell if it is another one. -/
def setStatus (e : Engine) (status : FormStatus) : Engine :=
  if e.status = status then e
  else { e with status := status }.push (.statusChange e.status status)

/-! ## The view -/

/-- Draw the view. -/
def draw (e : Engine) : Engine :=
  { e with drawing := e.drawing.map fun d => d.render e.view e.state }

/-- What a layout shows. One with too many levels shows nothing. -/
def resolve (e : Engine) : Option ViewNode :=
  e.definition.bind fun d =>
    match d.layout.resolve ⟨d, e.visibility, e.widgets⟩ maxLayoutDepth with
    | .ok view => view
    | .error _ => none

/-- Make the view anew and draw it. -/
def rebuild (e : Engine) : Engine := { e with view := e.resolve }.draw

/-- Attach a renderer, and draw the view with it. A message that is shown is not drawn. -/
def attachRenderer (e : Engine) : Engine := { e with drawing := some {} }.draw

/-- Which fields are shown with the data as they are. -/
def currentVisibility (e : Engine) : Keyed Bool :=
  match e.definition with
  | some d => visibilityMap d.fields e.state.data
  | none => []

/-- Whether a field is shown. One that nothing is known of is. -/
def isVisible (e : Engine) (fieldId : String) : Bool :=
  (Keyed.find? e.visibility fieldId).getD true

/-- Find out anew which fields are shown, and tell of those that changed. -/
def refreshVisibility (e : Engine) : Engine :=
  let next := e.currentVisibility
  let flipped := next.filter fun (id, visible) => e.isVisible id != visible
  flipped.foldl (fun e (id, visible) => e.push (.visibilityChange id visible))
    { e with visibility := next }

/-! ## Messages -/

/-- Show a message in place of the one before. Its time starts, if there is one. -/
def showMessage (e : Engine) (text : String) (kind : MessageKind) : Engine :=
  let m : StatusMessage := ⟨e.messages + 1, text, kind⟩
  let e : Engine := { e with messages := m.id, drawing := e.drawing.map fun d => d.tell m }
  let e := { e.push (.message m) with message := some m }
  if e.timed && e.options.messageTtl != 0 then { e with timers := e.timers ++ [m.id] } else e

/-- Take the message away. -/
def clearMessage (e : Engine) : Engine :=
  match e.message with
  | some m => { e with message := none, drawing := e.drawing.map fun d => d.clear m.id }
  | none => e

/-- The time of a message is over. The message goes if it is still the one that is shown. -/
def expire (e : Engine) (id : Nat) : List FormEvent × Engine :=
  let e := { e with timers := e.timers.filter fun other => other != id }
  if e.message.any fun m => m.id == id then ([.messageExpired id], e.clearMessage) else ([], e)

/-! ## Validation -/

/-- Validate the field with a name, and store the result if it is a new one. -/
def validateNamed (e : Engine) (name : String) : Engine :=
  match e.definition.bind fun d => d.fieldNamed? name with
  | none => e
  | some field =>
    let (error, validator) := e.validator.validateField field (e.state.value? name) e.state.data
    let e := { e with validator := validator }
    if e.state.error? name = error then e else { e with state := e.state.setError name error }

/-- The fields that a full validation covers. -/
def inScope (e : Engine) (d : FormDefinition) : List FieldDefinition :=
  match e.options.validationScope with
  | .allFields => d.fields
  | .visibleOnly => d.fields.filter fun f => e.isVisible f.id

/-- Store errors in place of those that are there. -/
def storeErrors (e : Engine) (errors : Errors) : Engine :=
  { e with
    state := errors.foldl (fun s (name, error) => s.setError name (some error))
      e.state.clearErrors }

/-- Validate all fields and store the errors. -/
def writeErrors (e : Engine) : Errors × Engine :=
  let (errors, validator) :=
    match e.definition with
    | some d => e.validator.validateAll (e.inScope d) e.state.data
    | none => ([], e.validator)
  (errors, ({ e with validator := validator }.storeErrors errors).rebuild)

/-! ## Filling in -/

/-- What follows when the values at names were changed: it is found out what is shown, the fields
are validated where the options ask for it, and the view is made anew. -/
def follow (e : Engine) (names : List String) : Engine :=
  let e := e.refreshVisibility
  (if e.options.validateOnChange then names.foldl validateNamed e else e).rebuild

/-- Put a value at a name. -/
def setValue (e : Engine) (name : String) (value : Json) : Option Engine :=
  (e.state.setValue name value).map fun state => { e with state := state }.follow [name]

/-- Put several values, each at its name, in the order of the names. -/
def setFormData (e : Engine) (data : Keyed Json) : Option Engine :=
  (e.state.fill data).map fun state => { e with state := state }.follow data.keys

/-- A field was left. -/
def blur (e : Engine) (name : String) : Engine :=
  let e := { e with state := e.state.touch name }
  if e.options.validateOnBlur then (e.validateNamed name).rebuild else e

/-- Validate all fields. Whether there are no errors is given back. -/
def validate (e : Engine) : Bool × Engine :=
  let (errors, e) := e.writeErrors
  (errors.isEmpty, e)

/-- Take all values, errors and marks away. Defaults do not come back. -/
def reset (e : Engine) : Engine :=
  ({ e with state := e.state.reset }.refreshVisibility.rebuild).push .formRendered

/-- Make the view anew on demand. -/
def render (e : Engine) : Engine :=
  let e := e.rebuild
  if e.definition.isSome then e.push .formRendered else e

/-- The engine for a log, with the bus it dispatches to. -/
def describe (e : Engine) (bus : String) : String :=
  let form :=
    match e.definition with
    | some d => "Some(" ++ Text.quoted d.formId ++ ")"
    | none => "None"
  "FormEngine \x7b status: " ++ e.status.title ++ ", form_id: " ++ form ++ ", events: " ++ bus ++
    " \x7d"

end Engine

end LiveForm
