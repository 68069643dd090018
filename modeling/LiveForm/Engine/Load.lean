import LiveForm.Engine.Basic

/-!
# Loading a form

A load has two steps with a wait between them: the start, and the arrival of a definition or of the
reason why there is none. Other things may happen meanwhile, other loads too. The load that was
started last counts; one that arrives later than the start of another is superseded and changes
nothing that can be seen.

A definition is checked on arrival. One that cannot be used leaves the form as it was. One that can
be used is taken up with the defaults of its fields. A default for which an array has no room stops
the program, and then the load has no result.
-/

namespace LiveForm

/-- Where a form comes from. -/
inductive FormSource where
  | id (formId : String)
  | definition (d : FormDefinition)

/-- How a load ended. -/
inductive LoadOutcome where
  | loaded (formId : String)
  | failed (error : FormError)
  | superseded

namespace Engine

/-- The message while a form is loaded. -/
def loadingText : String := "Loading form..."

/-- The message when a form cannot be loaded. -/
def loadFailedText : String := "Failed to load form"

/-- Start a load. Its number is given back. -/
def beginLoad (e : Engine) : Nat × List FormEvent × Engine :=
  let e := { e with loads := e.loads + 1 }
  e.update fun e =>
    let number := e.loads
    let e := e.setStatus .loading
    (number, if e.options.showLoadingStates then e.showMessage loadingText .info else e)

/-- Check a definition and its patterns. -/
def check (e : Engine) (d : FormDefinition) : Except FormError Unit × Engine :=
  match d.check with
  | .error error => (.error error, e)
  | .ok () =>
    let (result, validator) := e.validator.checkPatterns d
    (result, { e with validator := validator })

/-- Put in the defaults of fields. Each field has one chance as long as the engine lives. -/
def seedDefaults (e : Engine) : List FieldDefinition → Option Engine
  | [] => some e
  | field :: rest =>
    match field.defaultValue with
    | none => seedDefaults e rest
    | some value =>
      if e.seeded.contains field.id then seedDefaults e rest
      else
        (e.state.seed field.name value).bind fun (_, state) =>
          seedDefaults { e with seeded := field.id :: e.seeded, state := state } rest

/-- Show a form whose defaults are put in, and make it ready. -/
def present (e : Engine) (d : FormDefinition) : Engine :=
  let e := { e with visibility := e.currentVisibility }.rebuild.push .formRendered
  let e := if e.message.any fun m => m.text == loadingText then e.clearMessage else e
  (e.setStatus .ready).push (.formLoaded d.formId d.name)

/-- Take up a definition that can be used. -/
def install (e : Engine) (d : FormDefinition) : Option Engine :=
  (seedDefaults { e with definition := some d } d.fields).map fun e => e.present d

/-- Give up a load. -/
def failLoad (e : Engine) (error : FormError) : Engine :=
  ((e.setStatus .loadError).showMessage loadFailedText .error).push
    (.error loadFailedText error.userMessage)

/-- Finish a load with what arrived. -/
def finishLoad (e : Engine) (number : Nat) (arrived : Except FormError FormDefinition) :
    Option (LoadOutcome × List FormEvent × Engine) :=
  let (usable, e) : Except FormError FormDefinition × Engine :=
    match arrived with
    | .error error => (.error error, e)
    | .ok d =>
      let (result, e) := e.check d
      (result.map fun _ => d, e)
  e.update? fun e =>
    if e.loads ≠ number then some (.superseded, e)
    else
      match usable with
      | .ok d => (e.install d).map fun e => (.loaded d.formId, e)
      | .error error => some (.failed error, e.failLoad error)

end Engine

end LiveForm
