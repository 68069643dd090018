import LiveForm.Definition.Reading
import LiveForm.Http.Message
import LiveForm.Layout.Outline
import LiveForm.Rules.Visibility
import LiveForm.Store.Basic

/-!
# A store that answers

A store answers in two ways. An engine in the same program uses it as its transport
(`Store.fetchDefinition`, `Store.acceptPayload`). Everybody else sends requests, which
`Store.respond` answers: forms are read, stored and previewed, submissions are made and listed. The
path decides first, then the method, then the identifier in the path, then the body, and the store
at last.
-/

namespace LiveForm

/-- The confirmation of a submission. -/
def Submission.receipt (s : Submission) : SubmitResponse where
  message := "Your submission has been received successfully!"
  submissionId := some s.stamp.id
  status := some "success"

/-- The error as one of a transport. -/
def StoreError.toTransportError (e : StoreError) : TransportError :=
  .refused e.code (some e.message)

/-- The outline of a form as it is with given data. Anything but an object counts as no data. -/
def FormDefinition.preview (d : FormDefinition) (data : Json) : Except FormError String :=
  let state := FormState.ofData data.membersOf
  let ctx : LayoutContext := ⟨d, visibilityMap d.fields state.data, .builtins⟩
  (d.layout.resolve ctx maxLayoutDepth).map fun view =>
    (view.map fun v => v.outline state).getD ""

namespace Store

/-- The form that an engine asks for. -/
def fetchDefinition (s : Store) (formId : String) : Except TransportError FormDefinition :=
  (s.get formId).mapError StoreError.toTransportError

/-- The data that an engine submits. -/
def acceptPayload (s : Store) (formId : String) (p : Payload) (stamp : Stamp) :
    Except TransportError SubmitResponse × Store :=
  let (result, s) := s.submit formId p.data stamp
  ((result.map Submission.receipt).mapError StoreError.toTransportError, s)

/-! ## Requests -/

/-- What a path leads to. Identifiers are as they are written in the path. -/
inductive Route where
  | greeting
  | health
  | form (id : String)
  | submissions (id : String)
  | preview (id : String)
deriving DecidableEq

namespace Route

/-- What the path of a target leads to. An identifier has at least one character. -/
def ofTarget? (target : String) : Option Route :=
  match Http.segments target with
  | ["", "api"] | ["", "api", ""] => some greeting
  | ["", "api", "health"] => some health
  | ["", "api", "forms", id] => if id = "" then none else some (form id)
  | ["", "api", "forms", id, "submissions"] => if id = "" then none else some (submissions id)
  | ["", "api", "forms", id, "preview"] => if id = "" then none else some (preview id)
  | _ => none

/-- The identifier in the path. -/
def id? : Route → Option String
  | greeting | health => none
  | form id | submissions id | preview id => some id

/-- The methods that are answered. What can be read can be asked for without the body. -/
def allows : Route → Http.Method → Bool
  | greeting, m | health, m => m = .get || m = .head
  | form _, m => m = .get || m = .head || m = .put
  | submissions _, m => m = .get || m = .head || m = .post
  | preview _, m => m = .post

end Route

/-- The answer to a refusal. -/
def refusal (e : StoreError) : Http.Response :=
  ⟨e.code, .json (.obj [("detail", .str e.message)])⟩

/-- The answer of the store: what was done, or why it was refused. -/
def answer {α : Type} (encode : α → Http.Response) : Except StoreError α → Http.Response
  | .ok x => encode x
  | .error e => refusal e

/-- Answer a request whose route allows its method. `id` is the identifier in the path. -/
def perform (s : Store) (r : Http.Request) (stamp : Stamp) (id : String) :
    Route → Http.Response × Store
  | .greeting => (.ok (.obj [("message", .str "Form-Titan API is running!")]), s)
  | .health => (.ok (.obj [("status", .str "ok"), ("version", .str "1.0.0")]), s)
  | .form _ =>
    if r.method = .put then
      match r.structure? FormDefinition.record with
      | .error code => ({ code := code }, s)
      | .ok d =>
        let (result, s) := s.put id d
        let done : Json :=
          .obj
            [("message", .str "Form definition updated successfully"), ("status", .str "success")]
        (answer (fun _ => .ok done) result, s)
    else (answer (fun d => .ok d.toJson) (s.get id), s)
  | .submissions _ =>
    if r.method = .post then
      match r.structure? Payload.record with
      | .error code => ({ code := code }, s)
      | .ok p =>
        let (result, s) := s.submit id p.data stamp
        (answer (fun x => .ok x.receipt.toJson) result, s)
    else (.ok (.arr ((s.listing id).map Submission.toJson)), s)
  | .preview _ =>
    match r.structure? Payload.record with
    | .error code => ({ code := code }, s)
    | .ok p =>
      let outline := (s.get id).bind fun d => (d.preview p.data).mapError .invalid
      (answer (fun text => ⟨200, .text text⟩) outline, s)

/-- Answer a request. A question about the options of a path is granted without looking at it. -/
def respond (s : Store) (r : Http.Request) (stamp : Stamp) : Http.Response × Store :=
  if r.method = .options then ({ code := 200 }, s)
  else
    match Route.ofTarget? r.target with
    | none => ({ code := 404 }, s)
    | some route =>
      if !route.allows r.method then ({ code := 405 }, s)
      else
        match Http.decodeSegment? (route.id?.getD "") with
        | none => ({ code := 400 }, s)
        | some id =>
          let (response, s) := s.perform r stamp id route
          (if r.method = .head then { response with body := .empty } else response, s)

end Store

end LiveForm
