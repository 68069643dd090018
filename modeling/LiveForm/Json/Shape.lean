import LiveForm.Json.Draft
import LiveForm.Json.Path
import LiveForm.Json.Writing
import LiveForm.Text.Quoted

/-!
# Reading structures out of values

A structure is written as an object of its members, or as an array of them in the order of their
declaration. A `Record` says which members there are and what each does to the structure that is
being built. `Record.ofMembers` and `Record.ofItems` read the two forms.

Members are read in the order of the text, and the first thing that is wrong is the error: a
repeated member before its value is looked at, a missing one only after all others were read.
Members with other names are skipped. An array may stop early where all further members may be
missing.
-/

namespace LiveForm

/-- What stands where something else was wanted. -/
inductive Seen where
  | null
  | bool (value : Bool)
  | num (value : Number)
  | text (value : String)
  | sequence
  | map

/-- Why a value is not of the wanted shape. -/
inductive ShapeError where
  /-- The text is no JSON at all, or nested too deep. -/
  | malformed
  | wrongType (seen : Seen) (wanted : String)
  /-- A negative integer where a length was wanted. -/
  | negative (value : Int)
  | missing (key : String)
  | duplicate (key : String)
  /-- An array of a structure's members stops before one that may not be missing. -/
  | tooFew (count : Nat) (name : String) (size : Nat)
  /-- An array of a structure's members has more items than the structure. -/
  | tooMany (count : Nat)
  /-- Each member is of its shape, but they do not make a whole. -/
  | refused (reason : String)

/-- The description of what was seen. -/
def Seen.message : Seen → String
  | null => "null"
  | bool b => "boolean `" ++ (if b then "true" else "false") ++ "`"
  | num (.int n fits) => "integer `" ++ String.ofList (Number.int n fits).chars ++ "`"
  | num (.float x finite) =>
    "floating point `" ++ String.ofList (Number.float x finite).chars ++ "`"
  | text s => "string " ++ Text.quoted s
  | sequence => "sequence"
  | map => "map"

namespace ShapeError

/-- The text of an error. -/
def message : ShapeError → String
  | malformed => "<malformed JSON>"
  | wrongType seen wanted => "invalid type: " ++ seen.message ++ ", expected " ++ wanted
  | negative n => "invalid value: integer `" ++ toString n ++ "`, expected usize"
  | missing key => "missing field `" ++ key ++ "`"
  | duplicate key => "duplicate field `" ++ key ++ "`"
  | tooFew count name size =>
    "invalid length " ++ toString count ++ ", expected struct " ++ name ++ " with " ++
      toString size ++ " elements"
  | tooMany count =>
    "invalid length " ++ toString count ++ ", expected fewer elements in array"
  | refused reason => reason

/-- The error of a whole text. A text with items too many was not read to its end. -/
def ofText : ShapeError → ShapeError
  | tooMany _ => malformed
  | e => e

end ShapeError

namespace Draft

/-- The error of a draft that is not what was wanted. -/
def unexpected (d : Draft) (wanted : String) : ShapeError :=
  match d with
  | .null => .wrongType .null wanted
  | .bool b => .wrongType (.bool b) wanted
  | .num n => .wrongType (.num n) wanted
  | .str s => .wrongType (.text s) wanted
  | .arr _ _ => .wrongType .sequence wanted
  | .obj _ _ => .wrongType .map wanted
  | .unusable | .broken => .malformed

/-- A text. -/
def text : Draft → Except ShapeError String
  | .str s => .ok s
  | d => .error (d.unexpected "a string")

/-- A flag. -/
def flag : Draft → Except ShapeError Bool
  | .bool b => .ok b
  | d => .error (d.unexpected "a boolean")

/-- A length: an integer of 64 bits without a sign. -/
def count : Draft → Except ShapeError UInt64
  | .num (.int n _) => if 0 ≤ n then .ok (UInt64.ofNat n.toNat) else .error (.negative n)
  | d => .error (d.unexpected "usize")

/-- A number. -/
def number : Draft → Except ShapeError Binary64
  | .num n => .ok n.toBinary64
  | d => .error (d.unexpected "f64")

/-- Any value. -/
def any (d : Draft) : Except ShapeError Json :=
  match d.value? with
  | some v => .ok v
  | none => .error .malformed

/-- The members of an object, whatever their values are. -/
def map (d : Draft) : Except ShapeError (Keyed Json) :=
  match d with
  | .obj _ _ => d.any.map Json.membersOf
  | d => .error (d.unexpected "a map")

/-- `null`, or something else. -/
def optional {α : Type} (read : Draft → Except ShapeError α) : Draft → Except ShapeError (Option α)
  | .null => .ok none
  | d => (read d).map some

/-- What was read of the items of an array, if the array ended well. -/
def finish {α : Type} (ending : Ending) (x : α) : Except ShapeError α :=
  match ending with
  | .closed => .ok x
  | .broken | .tooDeep => .error .malformed

/-- The items of an array, the first error first. -/
def list {α : Type} (read : Draft → Except ShapeError α) : Draft → Except ShapeError (List α)
  | .arr items ending => (items.mapM read).bind (finish ending)
  | d => .error (d.unexpected "a sequence")

end Draft

/-- How a structure is read. The members come as values of `β`, a draft or more than that. -/
structure Record (β α : Type) where
  /-- The name of the structure in messages. -/
  name : String
  /-- The members in the order of their declaration, and whether they may be missing. -/
  members : List (String × Bool)
  /-- The structure before any member was read. -/
  start : α
  /-- The structure after one of its members was read. -/
  put : String → β → α → Except ShapeError α
  /-- A member that the structure does not have can be skipped. -/
  skips : β → Bool

namespace Record

variable {β α : Type}

/-- The structure has a member of this name. -/
def has (r : Record β α) (key : String) : Bool := r.members.any fun m => m.1 == key

/-- Read members in the order of the text. `seen` are the names before. -/
def putMembers (r : Record β α) (seen : List String) (x : α) :
    List (Option String × β) → Except ShapeError (List String × α)
  | [] => .ok (seen, x)
  | (none, _) :: _ => .error .malformed
  | (some key, v) :: rest =>
    if r.has key then
      if seen.contains key then .error (.duplicate key)
      else
        match r.put key v x with
        | .ok x => putMembers r (key :: seen) x rest
        | .error e => .error e
    else if r.skips v then putMembers r seen x rest
    else .error .malformed

/-- The first member that is missing and may not be. -/
def missing? (r : Record β α) (seen : List String) : Option String :=
  (r.members.find? fun m => !m.2 && !seen.contains m.1).map Prod.fst

/-- Read the structure from the members of an object. -/
def ofMembers (r : Record β α) (members : List (Option String × β)) (ending : Ending) :
    Except ShapeError α := do
  let (seen, x) ← r.putMembers [] r.start members
  let x ← Draft.finish ending x
  match r.missing? seen with
  | some key => .error (.missing key)
  | none => return x

/-- Read members from the items of an array. `keys` are those that are left, the first of them
at an index. What remains of the items is given back. -/
def putItems (r : Record β α) (ending : Ending) (index : Nat) (x : α) :
    List (String × Bool) → List β → Except ShapeError (α × List β)
  | [], items => .ok (x, items)
  | (key, _) :: keys, v :: items =>
    match r.put key v x with
    | .ok x => putItems r ending (index + 1) x keys items
    | .error e => .error e
  | keys, [] =>
    match ending with
    | .broken | .tooDeep => .error .malformed
    | .closed =>
      match keys.findIdx? fun m => !m.2 with
      | some i => .error (.tooFew (index + i) r.name r.members.length)
      | none => .ok (x, [])

/-- Read the structure from the items of an array. -/
def ofItems (r : Record β α) (items : List β) (ending : Ending) : Except ShapeError α := do
  let (x, rest) ← r.putItems ending 0 r.start r.members items
  let x ← Draft.finish ending x
  if rest.isEmpty then return x else .error (.tooMany items.length)

/-- The error of a draft that is neither an object nor an array. -/
def unexpected (r : Record β α) (d : Draft) : ShapeError := d.unexpected ("struct " ++ r.name)

/-- Read the structure from a draft whose members are drafts. -/
def ofDraft (r : Record Draft α) : Draft → Except ShapeError α
  | .obj members ending => r.ofMembers members ending
  | .arr items ending => r.ofItems items ending
  | d => .error (r.unexpected d)

/-- Read the structure from a text. Nothing but blanks may follow the value. -/
def ofText (r : Record Draft α) (s : String) : Except ShapeError α :=
  let (d, ended) := Draft.ofText s
  match r.ofDraft d with
  | .error e => .error e.ofText
  | .ok x => if ended then .ok x else .error .malformed

end Record

end LiveForm
