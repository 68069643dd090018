import LiveForm.Http.MediaType
import LiveForm.Json.Shape
import LiveForm.Text.Hex
import LiveForm.Text.Search

/-!
# Requests and responses

A request has a method, a target, perhaps the media type of its body, and the body. Of the target
only the path counts, not the query behind it. A segment of the path may have bytes written as a
percent sign and two digits; `decodeSegment?` undoes that and refuses what is no text then. A
percent sign without two digits stays what it is.

A body that is to be a structure is read by `Request.structure?`. It has to be declared as JSON and
to have no more than `maxBody` bytes, and each thing that can be wrong has its own code.
-/

namespace LiveForm.Http

/-- What a request wants. -/
inductive Method where
  | get
  | head
  | post
  | put
  | options
  | other (name : String)
deriving DecidableEq

/-- The method with a name. -/
def Method.named (name : String) : Method :=
  match name with
  | "GET" => get
  | "HEAD" => head
  | "POST" => post
  | "PUT" => put
  | "OPTIONS" => options
  | name => other name

/-- A request. -/
structure Request where
  method : Method
  target : String
  contentType : Option String := none
  body : String := ""

/-- What a response says. -/
inductive Body where
  | empty
  | json (value : Json)
  | text (value : String)
deriving DecidableEq

/-- The media type with which a body is sent. -/
def Body.mediaType? : Body → Option String
  | empty => none
  | json _ => some "application/json"
  | text _ => some "text/plain; charset=utf-8"

/-- A response. -/
structure Response where
  code : UInt16
  body : Body := .empty
deriving DecidableEq

/-- A value as a response. -/
def Response.ok (v : Json) : Response := ⟨200, .json v⟩

/-! ## Paths -/

/-- The segments of a target's path, as they are written. -/
def segments (target : String) : List String :=
  let path := target.toList.takeWhile fun c => c != '?' && c != '#'
  Text.pieces '/' (String.ofList path)

/-- The bytes of a segment. -/
def decodeBytes : List Char → List UInt8
  | [] => []
  | [c] => String.utf8EncodeChar c
  | [c, d] => String.utf8EncodeChar c ++ String.utf8EncodeChar d
  | c :: a :: b :: rest =>
    match c, Text.hexDigit? a, Text.hexDigit? b with
    | '%', some x, some y => UInt8.ofNat (16 * x + y) :: decodeBytes rest
    | _, _, _ => String.utf8EncodeChar c ++ decodeBytes (a :: b :: rest)

/-- The text of a segment. -/
def decodeSegment? (segment : String) : Option String :=
  String.fromUTF8? (ByteArray.mk (decodeBytes segment.toList).toArray)

/-! ## Bodies -/

/-- The declared media type of the body is JSON. -/
def Request.declaresJson (r : Request) : Bool :=
  (r.contentType.bind MediaType.parse?).any MediaType.isJson

/-- The greatest number of bytes of a body that is read. -/
def maxBody : Nat := 0x200000

/-- The structure in the body, or the code of what is wrong: 415 for another media type, 413 for a
body that is too long, 400 for one that is no JSON, 422 for one of another shape. -/
def Request.structure? {α : Type} (r : Request) (record : Record Draft α) : Except UInt16 α :=
  if !r.declaresJson then .error 415
  else if maxBody < r.body.utf8ByteSize then .error 413
  else
    match record.ofText r.body with
    | .ok x => .ok x
    | .error .malformed => .error 400
    | .error _ => .error 422

end LiveForm.Http
