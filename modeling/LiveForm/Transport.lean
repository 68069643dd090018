import LiveForm.Definition.Writing
import LiveForm.Json.Shape

/-!
# Where definitions come from and submissions go

An engine fetches definitions and submits data through a transport. This module has what passes
between them: the payload of a submission, the response, and why one of the two can fail.
-/

namespace LiveForm

/-- Why a transport fails. -/
inductive TransportError where
  /-- The other side refused, with a code and a text. -/
  | status (code : UInt16) (detail : String)
  | unavailable (reason : String)
  /-- The answer could not be read. -/
  | unreadable (reason : String)
deriving DecidableEq

namespace TransportError

/-- A refusal. Where the other side gives no text the code has to do. -/
def refused (code : UInt16) (detail : Option String) : TransportError :=
  let general := "HTTP " ++ toString code ++ ": Submission failed"
  .status code ((detail.filter fun d => !Text.isBlank d).getD general)

/-- The code of a refusal. -/
def code? : TransportError → Option UInt16
  | status code _ => some code
  | _ => none

/-- The text of an error of a transport. -/
def message : TransportError → String
  | status _ detail => detail
  | unavailable reason => "Service unavailable: " ++ reason
  | unreadable reason => "Invalid response: " ++ reason

/-- The error as one of the form. -/
def toFormError (e : TransportError) : FormError := .network e.message

end TransportError

/-- What is submitted. -/
structure Payload where
  data : Json
deriving DecidableEq

namespace Payload

def record : Record Draft Payload where
  name := "SubmissionPayload"
  members := [("data", false)]
  start := ⟨.null⟩
  put := fun key d x =>
    match key with
    | "data" => do return { x with data := ← d.any }
    | _ => return x
  skips := Draft.intact

def toJson (p : Payload) : Json := .obj [("data", p.data)]

end Payload

/-- The answer to a submission. -/
structure SubmitResponse where
  message : String := ""
  submissionId : Option String := none
  status : Option String := none
deriving DecidableEq

namespace SubmitResponse

def record : Record Draft SubmitResponse where
  name := "SubmitResponse"
  members := [("message", true), ("submissionId", true), ("status", true)]
  start := {}
  put := fun key d x =>
    match key with
    | "message" => do return { x with message := ← d.text }
    | "submissionId" => do return { x with submissionId := ← d.optional Draft.text }
    | "status" => do return { x with status := ← d.optional Draft.text }
    | _ => return x
  skips := Draft.intact

/-- Read a response from a value. -/
def ofJson (v : Json) : Except ShapeError SubmitResponse := record.ofDraft (Draft.ofJson v)

/-- Read a response from a text. -/
def ofText (s : String) : Except ShapeError SubmitResponse := record.ofText s

def toJson (r : SubmitResponse) : Json :=
  .obj
    (Json.member "message" (.str r.message) ++
     Json.memberIf "status" (r.status.map Json.str) ++
     Json.memberIf "submissionId" (r.submissionId.map Json.str))

end SubmitResponse

end LiveForm
