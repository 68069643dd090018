import LiveForm.Json.Basic

/-!
# Events

What happens to a form is told as events. Each has a kind, by which subscribers choose, and is
written as an object that names the kind.
-/

namespace LiveForm

/-- Where a form is in its life. -/
inductive FormStatus where
  | idle
  | loading
  | ready
  | loadError
  | submitting
  | submitted
  | submitError
deriving DecidableEq

namespace FormStatus

/-- The form accepts submissions. -/
def isReady : FormStatus → Bool
  | ready | submitted | submitError => true
  | _ => false

def name : FormStatus → String
  | idle => "idle"
  | loading => "loading"
  | ready => "ready"
  | loadError => "loadError"
  | submitting => "submitting"
  | submitted => "submitted"
  | submitError => "submitError"

/-- The name for a log. -/
def title : FormStatus → String
  | idle => "Idle"
  | loading => "Loading"
  | ready => "Ready"
  | loadError => "LoadError"
  | submitting => "Submitting"
  | submitted => "Submitted"
  | submitError => "SubmitError"

end FormStatus

/-- What a message to the user is about. -/
inductive MessageKind where
  | info
  | success
  | error
deriving DecidableEq

def MessageKind.name : MessageKind → String
  | info => "info"
  | success => "success"
  | error => "error"

/-- A message to the user. -/
structure StatusMessage where
  id : Nat
  text : String
  kind : MessageKind
deriving DecidableEq

def StatusMessage.toJson (m : StatusMessage) : Json :=
  .obj [("id", .ofNat m.id), ("kind", .str m.kind.name), ("text", .str m.text)]

/-- Messages by the names of the fields. -/
abbrev Errors := Keyed String

def Errors.toJson (errors : Errors) : Json := .obj (errors.map fun (name, m) => (name, .str m))

/-- Something that happened to a form. -/
inductive FormEvent where
  | fieldChange (name : String) (value data : Json)
  | errorChange (name : String) (error : Option String) (errors : Errors)
  | errorsCleared
  | formReset
  | visibilityChange (fieldId : String) (visible : Bool)
  | statusChange (start stop : FormStatus)
  | formLoaded (formId name : String)
  | formRendered
  | validationFailed (errors : Errors)
  | formSubmitted (data result : Json)
  | message (message : StatusMessage)
  | messageExpired (id : Nat)
  | error (text detail : String)
deriving DecidableEq

/-- The kind of an event. -/
inductive EventKind where
  | fieldChange
  | errorChange
  | errorsCleared
  | formReset
  | visibilityChange
  | statusChange
  | formLoaded
  | formRendered
  | validationFailed
  | formSubmitted
  | message
  | messageExpired
  | error
deriving DecidableEq

namespace EventKind

def all : List EventKind :=
  [fieldChange, errorChange, errorsCleared, formReset, visibilityChange, statusChange, formLoaded,
   formRendered, validationFailed, formSubmitted, message, messageExpired, error]

def name : EventKind → String
  | fieldChange => "fieldChange"
  | errorChange => "errorChange"
  | errorsCleared => "errorsCleared"
  | formReset => "formReset"
  | visibilityChange => "visibilityChange"
  | statusChange => "statusChange"
  | formLoaded => "formLoaded"
  | formRendered => "formRendered"
  | validationFailed => "validationFailed"
  | formSubmitted => "formSubmitted"
  | message => "message"
  | messageExpired => "messageExpired"
  | error => "error"

/-- The kind with a name. -/
def named? (name : String) : Option EventKind := all.find? fun kind => kind.name == name

end EventKind

namespace FormEvent

def kind : FormEvent → EventKind
  | fieldChange .. => .fieldChange
  | errorChange .. => .errorChange
  | errorsCleared => .errorsCleared
  | formReset => .formReset
  | visibilityChange .. => .visibilityChange
  | statusChange .. => .statusChange
  | formLoaded .. => .formLoaded
  | formRendered => .formRendered
  | validationFailed .. => .validationFailed
  | formSubmitted .. => .formSubmitted
  | message .. => .message
  | messageExpired .. => .messageExpired
  | error .. => .error

/-- What an event tells, apart from its kind. -/
def members : FormEvent → List (String × Json)
  | fieldChange name value data => [("name", .str name), ("value", value), ("data", data)]
  | errorChange name fault errors =>
    [("name", .str name), ("error", (fault.map Json.str).getD .null), ("errors", errors.toJson)]
  | errorsCleared | formReset | formRendered => []
  | visibilityChange fieldId visible => [("fieldId", .str fieldId), ("visible", .bool visible)]
  | statusChange start stop => [("from", .str start.name), ("to", .str stop.name)]
  | formLoaded formId name => [("formId", .str formId), ("name", .str name)]
  | validationFailed errors => [("errors", errors.toJson)]
  | formSubmitted data result => [("data", data), ("result", result)]
  | message m => [("id", .ofNat m.id), ("text", .str m.text), ("kind", .str m.kind.name)]
  | messageExpired id => [("id", .ofNat id)]
  | error text detail => [("message", .str text), ("detail", .str detail)]

/-- The event as an object. -/
def toJson (e : FormEvent) : Json := .ofMembers (("event", .str e.kind.name) :: e.members)

end FormEvent

end LiveForm
