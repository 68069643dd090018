import LiveForm.Json.Basic
import LiveForm.Number.Reading
import LiveForm.Text.Search

/-!
# Places inside a value

A dotted name such as `rows.0.qty` is a list of segments. A segment picks a member of an object,
or, where it reads as an index, an item of an array. `Json.at?` reads what is there.

`Json.write?` puts a value there. It makes the levels that are missing: an array is padded with
`null` up to the index, and what is neither an array under an index nor an object is replaced by an
object. There is no result only where an array is given an index whose successor is no word of 64
bits: no array has that many items, and the program stops. Any other index is padded up to, however
much memory that takes.
-/

namespace LiveForm

/-- The segments of a dotted name: the texts between the dots. -/
def segments (name : String) : List String := Text.pieces '.' name

/-- The index that a segment stands for: decimal digits, with an optional plus, below `UInt64.size`. -/
def index? (segment : String) : Option Nat :=
  let digits :=
    match segment.toList with
    | '+' :: rest => rest
    | cs => cs
  if digits.isEmpty || !digits.all Char.isDigit then none
  else
    let n := Text.digitsValue digits
    if n < UInt64.size then some n else none

namespace Json

/-- What one segment picks from a value. -/
def child? (v : Json) (segment : String) : Option Json :=
  match v with
  | .obj members => Keyed.find? members segment
  | .arr items => (index? segment).bind fun i => items[i]?
  | _ => none

/-- What is at a place. -/
def at? (v : Json) : List String → Option Json
  | [] => some v
  | segment :: rest => (v.child? segment).bind fun w => w.at? rest

/-- The items with one put at an index, after `null` for those missing in between. -/
def putItem (items : List Json) (i : Nat) (v : Json) : List Json :=
  if i < items.length then items.set i v
  else items ++ List.replicate (i - items.length) .null ++ [v]

/-- The members of an object. Nothing else has members. -/
def membersOf : Json → List (String × Json)
  | .obj members => members
  | _ => []

/-- The index that a segment picks from this value, if the value is an array. -/
def indexIn? (v : Json) (segment : String) : Option Nat :=
  match v with
  | .arr _ => index? segment
  | _ => none

/-- The items of an array. -/
def itemsOf : Json → List Json
  | .arr items => items
  | _ => []

/-- Put a value at a place. -/
def write? (v : Json) (place : List String) (new : Json) : Option Json :=
  match place with
  | [] => some new
  | segment :: rest =>
    match v.indexIn? segment with
    | some i =>
      if i + 1 < UInt64.size then
        (write? (v.itemsOf[i]?.getD .null) rest new).map fun w => .arr (putItem v.itemsOf i w)
      else none
    | none =>
      (write? ((Keyed.find? v.membersOf segment).getD .null) rest new).map fun w =>
        .obj (Keyed.insert v.membersOf segment w)

/-- What is at a dotted name. -/
def get? (v : Json) (name : String) : Option Json := v.at? (segments name)

/-- Put a value at a dotted name. -/
def set? (v : Json) (name : String) (new : Json) : Option Json := v.write? (segments name) new

theorem segments_ne_nil (name : String) : segments name ≠ [] := Text.pieces_ne_nil '.' name

end Json

end LiveForm
