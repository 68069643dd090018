import LiveForm.Engine.Basic
import LiveForm.Transport

/-!
# Submitting a form

A submission takes the flag that one is under way, prepares the payload, waits for the transport,
and finishes with the answer. Only one is under way at a time; another is skipped at once. The flag
is given back however the submission ends, also when it is dropped while it waits.
-/

namespace LiveForm

/-- Why a submission is skipped. -/
inductive SkipReason where
  /-- Another one is under way. -/
  | inFlight
  /-- No form is there, or it does not accept submissions. -/
  | notReady
deriving DecidableEq

/-- How a submission ended. -/
inductive SubmitOutcome where
  | skipped (reason : SkipReason)
  /-- There were errors, and nothing was sent. -/
  | invalid (errors : Errors)
  | submitted (response : SubmitResponse)
  | failed (reason : String)
deriving DecidableEq

namespace Engine

/-- The message when a submission cannot be sent. -/
def submitFailedText : String := "Failed to submit form"

/-- The message when the answer to a submission has none. -/
def submittedText : String := "Form submitted successfully!"

/-- The message when there are errors. -/
def fixErrorsText : String := "Please fix the errors above"

/-- Take the flag, unless it is taken. -/
def acquire (e : Engine) : Option Engine :=
  if e.submitting then none else some { e with submitting := true }

/-- Give the flag back. -/
def release (e : Engine) : Engine := { e with submitting := false }

/-- Who has the flag keeps others from taking it. -/
theorem acquire_of_acquire {e taken : Engine} (h : e.acquire = some taken) :
    taken.acquire = none := by
  unfold acquire at h
  split at h
  · cases h
  · cases h
    simp [acquire]

/-- Validate, and say what is to be sent and for which form. -/
def prepare (e : Engine) : Except SubmitOutcome (String × Payload) × Engine :=
  match e.definition with
  | none => (.error (.skipped .notReady), e)
  | some d =>
    if e.status.isReady then
      let (errors, e) := e.writeErrors
      if errors.isEmpty then
        let e := e.setStatus .submitting
        (.ok (d.formId, ⟨e.state.data⟩), e)
      else
        (.error (.invalid errors),
          (e.push (.validationFailed errors)).showMessage fixErrorsText .error)
    else (.error (.skipped .notReady), e)

/-- Prepare a submission as a whole. -/
def beginSubmit (e : Engine) :
    Except SubmitOutcome (String × Payload) × List FormEvent × Engine := e.update prepare

/-- The submission was accepted. -/
def accept (e : Engine) (payload : Payload) (response : SubmitResponse) : Engine :=
  let e := (e.setStatus .submitted).push (.formSubmitted payload.data response.toJson)
  let text := if Text.isBlank response.message then submittedText else response.message
  let e := e.showMessage text .success
  if e.options.resetOnSubmit then e.reset else e

/-- The submission was refused, or did not arrive. -/
def reject (e : Engine) (reason : String) : Engine :=
  ((e.setStatus .submitError).showMessage reason .error).push (.error submitFailedText reason)

/-- Finish a submission with the answer. -/
def finishSubmit (e : Engine) (payload : Payload)
    (answer : Except TransportError SubmitResponse) : SubmitOutcome × List FormEvent × Engine :=
  e.update fun e =>
    match answer with
    | .ok response => (.submitted response, e.accept payload response)
    | .error error => (.failed error.message, e.reject error.message)

end Engine

end LiveForm
