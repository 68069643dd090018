import LiveForm.Json.Shape

/-!
# Errors of a form

`FormError.message` is the text for a log, with a tag in front that names the area. A user is shown
`FormError.userMessage`, which has the tag only where the text says little without it. What exactly
is wrong with a pattern or with the text of engine options is not said: `<reason>` stands for it.
-/

namespace LiveForm

/-- Why a file cannot be read. -/
inductive FileError where
  | notFound
  | isDirectory
deriving DecidableEq

/-- The text of an error of a file. -/
def FileError.message : FileError → String
  | notFound => "No such file or directory (os error 2)"
  | isDirectory => "Is a directory (os error 21)"

/-- Why a definition cannot be used. -/
inductive DefinitionError where
  | shape (error : ShapeError)
  | unreadable (path : String) (error : FileError)
  | duplicateField (fieldId formId : String)

/-- The text of an error of a definition. -/
def DefinitionError.message : DefinitionError → String
  | shape error => error.message
  | unreadable path error => "Failed to read form file " ++ path ++ ": " ++ error.message
  | duplicateField fieldId formId =>
    "duplicate field id '" ++ fieldId ++ "' in form '" ++ formId ++ "'"

/-- Why engine options cannot be used. -/
inductive OptionsError where
  | unreadable (path : String) (error : FileError)
  | invalid

/-- The text of an error of engine options. -/
def OptionsError.message : OptionsError → String
  | unreadable path error => "Failed to read options file " ++ path ++ ": " ++ error.message
  | invalid => "Invalid engine options: <reason>"

/-- Why something cannot be done with a form. -/
inductive FormError where
  | definition (error : DefinitionError)
  | network (reason : String)
  /-- The layout has more levels than allowed; one of the nodes too deep. -/
  | malformedLayout (nodeId : String) (max : Nat)
  | invalidPattern (field : String)
  | config (error : OptionsError)

namespace FormError

/-- The text of an error for a log. -/
def message : FormError → String
  | definition error => "DEFINITION/" ++ error.message
  | network reason => "NETWORK/" ++ reason
  | malformedLayout nodeId max =>
    "LAYOUT/nesting deeper than " ++ toString max ++ " levels at node '" ++ nodeId ++ "'"
  | invalidPattern field => "PATTERN/field '" ++ field ++ "': <reason>"
  | config error => "CONFIG/" ++ error.message

/-- The text of an error for a user. -/
def userMessage : FormError → String
  | definition error => error.message
  | network reason => reason
  | config error => error.message
  | error => error.message

end FormError

end LiveForm
