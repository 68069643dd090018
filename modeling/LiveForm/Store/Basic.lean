import LiveForm.Rules.Validation
import LiveForm.Transport

/-!
# A store of forms and submissions

A `Store` keeps definitions by their identifiers and the submissions in the order of their arrival.
Only definitions that can be used get in, so every form of a store can be loaded. A submission is
accepted for any form that is there, whatever its data.

The store does not make identifiers and times; whoever submits gives a `Stamp`.
-/

namespace LiveForm

/-- What tells one submission from another. -/
structure Stamp where
  id : String
  timestamp : String
deriving DecidableEq

/-- A submission that was accepted. -/
structure Submission where
  stamp : Stamp
  formId : String
  data : Json
deriving DecidableEq

def Submission.toJson (s : Submission) : Json :=
  .obj
    [("data", s.data), ("formId", .str s.formId), ("submissionId", .str s.stamp.id),
     ("timestamp", .str s.stamp.timestamp)]

/-- Why a store refuses. -/
inductive StoreError where
  | notFound
  /-- A definition is to be stored under an identifier that is not its own. -/
  | idMismatch (path body : String)
  | invalid (error : FormError)

namespace StoreError

/-- The text of an error of a store. -/
def message : StoreError → String
  | notFound => "Form not found"
  | idMismatch path body => "Form id '" ++ body ++ "' does not match '" ++ path ++ "'"
  | invalid error => error.message

/-- The code with which the error is answered. -/
def code : StoreError → UInt16
  | notFound => 404
  | idMismatch _ _ => 400
  | invalid _ => 422

end StoreError

/-- Definitions by their identifiers, and submissions, the oldest first. -/
structure Store where
  forms : Keyed FormDefinition := []
  submissions : List Submission := []

namespace Store

/-- The most submissions that one listing gives. -/
def pageSize : Nat := 100

/-- The form with an identifier. -/
def form? (s : Store) (formId : String) : Option FormDefinition := Keyed.find? s.forms formId

/-- The form with an identifier, or that there is none. -/
def get (s : Store) (formId : String) : Except StoreError FormDefinition :=
  match s.form? formId with
  | some d => .ok d
  | none => .error .notFound

/-- Whether a definition can be stored under an identifier. -/
def accepts (formId : String) (d : FormDefinition) : Except StoreError Unit :=
  if d.formId ≠ formId then .error (.idMismatch formId d.formId)
  else
    match d.check with
    | .error e => .error (.invalid e)
    | .ok () =>
      match (({} : Validator).checkPatterns d).1 with
      | .error e => .error (.invalid e)
      | .ok () => .ok ()

/-- Store a definition in place of the one before. -/
def put (s : Store) (formId : String) (d : FormDefinition) : Except StoreError Unit × Store :=
  match accepts formId d with
  | .error e => (.error e, s)
  | .ok () => (.ok (), { s with forms := Keyed.insert s.forms formId d })

/-- A refused definition leaves the store as it was. -/
theorem put_of_accepts_error {s : Store} {formId : String} {d : FormDefinition} {e : StoreError}
    (h : accepts formId d = .error e) : s.put formId d = (.error e, s) := by
  simp [put, h]

/-- An accepted definition is the form under its identifier. -/
theorem form?_put_of_accepts {s : Store} {formId : String} {d : FormDefinition}
    (h : accepts formId d = .ok ()) : (s.put formId d).2.form? formId = some d := by
  simp [put, h, form?, Keyed.find?_insert_self]

/-- The identifiers of the forms, in their order. -/
def formIds (s : Store) : List String := Keyed.keys s.forms

/-- Accept a submission for a form that is there. -/
def submit (s : Store) (formId : String) (data : Json) (stamp : Stamp) :
    Except StoreError Submission × Store :=
  match s.form? formId with
  | none => (.error .notFound, s)
  | some _ =>
    let submission := ⟨stamp, formId, data⟩
    (.ok submission, { s with submissions := s.submissions ++ [submission] })

/-- The first submissions of a form. -/
def listing (s : Store) (formId : String) : List Submission :=
  (s.submissions.filter fun x => x.formId == formId).take pageSize

end Store

end LiveForm
