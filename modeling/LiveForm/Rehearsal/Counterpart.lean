import LiveForm.Store.Service

/-!
# The other side of a rehearsal

A `Counterpart` takes the part of whoever an engine fetches forms from and submits to. Either every
answer is laid down beforehand, each with the time that it takes, or a store answers at once. All
submissions are noted.
-/

namespace LiveForm

/-- An answer, and how long it takes. -/
structure Delayed (α : Type) where
  delay : Nat := 0
  answer : α

/-- The other side: answers laid down, or a store. -/
structure Counterpart where
  /-- By identifier, the forms or the reasons why there are none. -/
  forms : List (String × Delayed (Except TransportError FormDefinition)) := []
  /-- The answers to submissions. The last one counts for all further ones. -/
  replies : List (Delayed (Except TransportError SubmitResponse)) := []
  store : Option Store := none
  /-- The submissions so far, each with its form. -/
  sent : List (String × Payload) := []

namespace Counterpart

/-- The answer when a form is asked for that nothing was laid down about. -/
def unknownForm : Except TransportError FormDefinition :=
  .error (.refused StoreError.notFound.code (some StoreError.notFound.message))

/-- The answer to a submission when nothing was laid down. -/
def thanks : Except TransportError SubmitResponse := .ok { message := "Thanks!" }

/-- Ask for a form. -/
def fetch (c : Counterpart) (formId : String) : Delayed (Except TransportError FormDefinition) :=
  match c.store with
  | some s => { answer := s.fetchDefinition formId }
  | none =>
    match c.forms.find? fun entry => entry.1 == formId with
    | some (_, answer) => answer
    | none => { answer := unknownForm }

/-- The answer laid down for a submission, by the number of submissions before. -/
def reply (c : Counterpart) (before : Nat) : Delayed (Except TransportError SubmitResponse) :=
  match c.replies[before]? with
  | some answer => answer
  | none => c.replies.getLast?.getD { answer := thanks }

/-- Submit a payload. The identifier of a submission to a store stays hidden. -/
def submit (c : Counterpart) (formId : String) (p : Payload) :
    Delayed (Except TransportError SubmitResponse) × Counterpart :=
  let noted := { c with sent := c.sent ++ [(formId, p)] }
  match c.store with
  | some s =>
    let (answer, s) := s.acceptPayload formId p ⟨"<id>", ""⟩
    ({ answer := answer }, { noted with store := some s })
  | none => (c.reply c.sent.length, noted)

end Counterpart

end LiveForm
