import LiveForm.FormError
import LiveForm.Yaml.Node

/-!
# Engine options

Options are written as a mapping in YAML. Every key may be missing, and unknown ones are skipped;
what is under them only has to be well formed. A text without a document, or with an empty one,
says nothing and gives the defaults.

The type of a value is what the key asks for: flags and numbers are plain scalars (or literal
blocks with the tag of the type), the scope is a word in any style or a tag without a value.
-/

namespace LiveForm

/-- The fields that a full validation covers. -/
inductive ValidationScope where
  | allFields
  | visibleOnly
deriving DecidableEq

namespace ValidationScope

def name : ValidationScope → String
  | allFields => "all_fields"
  | visibleOnly => "visible_only"

/-- The scope with a name. -/
def named? (name : String) : Option ValidationScope :=
  [allFields, visibleOnly].find? fun scope => scope.name == name

end ValidationScope

/-- How an engine behaves. -/
structure EngineOptions where
  validateOnChange : Bool := true
  validateOnBlur : Bool := true
  resetOnSubmit : Bool := false
  showLoadingStates : Bool := true
  validationScope : ValidationScope := .allFields
  /-- How long a message is shown, in milliseconds. With 0 it stays until another one comes. -/
  messageTtl : UInt64 := 5000
deriving DecidableEq

namespace Yaml.Scalar

/-- A scalar whose text is read by a type: a plain one, or a literal block with the type's tag. -/
def typed (s : Scalar) (tag : String) : Bool :=
  s.style = .plain || (s.style = .literal && s.tag == some ("tag:yaml.org,2002:" ++ tag))

/-- The flag that a scalar is. -/
def flag? (s : Scalar) : Option Bool :=
  if !s.typed "bool" then none
  else if ["true", "True", "TRUE"].contains s.text then some true
  else if ["false", "False", "FALSE"].contains s.text then some false
  else none

/-- The number that digits write in a base. -/
def digitsValue? (base : Nat) (digits : List Char) : Option UInt64 := do
  if digits.isEmpty then none
  let values ← digits.mapM Text.hexDigit?
  let n := values.foldl (fun n d => base * n + d) 0
  if values.all (· < base) && n < UInt64.size then some (UInt64.ofNat n) else none

/-- An integer of 64 bits without a sign. In front of the digits may stand a plus, and one of `0x`,
`0o` and `0b` for a base. Further digits behind a leading zero make a text of it. -/
def integer? (cs : List Char) : Option UInt64 :=
  let unsigned (cs : List Char) : List Char :=
    match cs with
    | '+' :: rest => rest
    | cs => cs
  match unsigned cs with
  | '0' :: 'x' :: digits => digitsValue? 16 digits
  | '0' :: 'o' :: digits => digitsValue? 8 digits
  | '0' :: 'b' :: digits => digitsValue? 2 digits
  | ['0'] => some 0
  | '0' :: _ => none
  | digits => digitsValue? 10 digits

/-- The count that a scalar is. -/
def count? (s : Scalar) : Option UInt64 :=
  if s.typed "int" then integer? s.text.toList else none

/-- A plain scalar that stands for no value. -/
def isVoid (s : Scalar) : Bool :=
  s.text == "" || (s.style = .plain && ["null", "Null", "NULL", "~"].contains s.text)

/-- The word that a scalar is: its text, or its tag if it has one and no value. -/
def word? (s : Scalar) : Option String :=
  match s.tag with
  | none => some s.text
  | some tag =>
    if !s.isVoid then none
    else
      match tag.toList with
      | '!' :: word => some (String.ofList word)
      | _ => some tag

end Yaml.Scalar

namespace EngineOptions

/-- The keys of the options. -/
def keys : List String :=
  ["validate_on_change", "validate_on_blur", "reset_on_submit", "show_loading_states",
   "validation_scope", "message_ttl_ms"]

/-- The options with the value of a key put in. -/
def put (o : EngineOptions) (key : String) (s : Yaml.Scalar) : Option EngineOptions :=
  match key with
  | "validate_on_change" => s.flag?.map fun b => { o with validateOnChange := b }
  | "validate_on_blur" => s.flag?.map fun b => { o with validateOnBlur := b }
  | "reset_on_submit" => s.flag?.map fun b => { o with resetOnSubmit := b }
  | "show_loading_states" => s.flag?.map fun b => { o with showLoadingStates := b }
  | "validation_scope" =>
    (s.word?.bind ValidationScope.named?).map fun scope => { o with validationScope := scope }
  | "message_ttl_ms" => s.count?.map fun n => { o with messageTtl := n }
  | _ => some o

/-- The options that the members of a mapping make. No key of `seen` may come again. -/
def ofMembers (d : Yaml.Document) (seen : List String) (o : EngineOptions) :
    List (Yaml.Node × Yaml.Node) → Option EngineOptions
  | [] => some o
  | (key, value) :: rest => do
    let key := (← d.scalar? key).text
    if !keys.contains key then ofMembers d seen o rest
    else if seen.contains key then none
    else ofMembers d (key :: seen) (← o.put key (← d.scalar? value)) rest

/-- The options that a document tells. -/
def ofDocument (d : Yaml.Document) : Option EngineOptions :=
  match d.root with
  | .mapping members => ofMembers d [] {} members
  | .scalar s => if s.text = "" ∧ s.style = .plain then some {} else none
  | _ => none

/-- Read options from a text. -/
def ofText (text : String) : Except OptionsError EngineOptions :=
  let read : Option EngineOptions :=
    match Yaml.Document.all? text with
    | some [] => some {}
    | some [d] => ofDocument d
    | _ => none
  match read with
  | some o => .ok o
  | none => .error .invalid

/-- Read options from a file. `read` gives the text of a path. -/
def load (read : String → Except FileError String) (path : String) :
    Except OptionsError EngineOptions :=
  match read path with
  | .error e => .error (.unreadable path e)
  | .ok text => ofText text

def toJson (o : EngineOptions) : Json :=
  .ofMembers
    [("validate_on_change", .bool o.validateOnChange), ("validate_on_blur", .bool o.validateOnBlur),
     ("reset_on_submit", .bool o.resetOnSubmit),
     ("show_loading_states", .bool o.showLoadingStates),
     ("validation_scope", .str o.validationScope.name),
     ("message_ttl_ms", .ofNat o.messageTtl.toNat)]

end EngineOptions

end LiveForm
