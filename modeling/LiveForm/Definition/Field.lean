import LiveForm.Json.Basic

/-!
# Fields of a form

A field has a kind, the constraints on its value and the conditions under which it is shown. Names
that this library does not know are kept as they were written: a kind without a widget and a
comparison without a meaning are no errors of a definition.
-/

namespace LiveForm

/-- What a field asks for. -/
inductive FieldKind where
  | text
  | email
  | tel
  | textarea
  | select
  | checkbox
  | radio
  | date
  | number
  | url
  | password
  | other (name : String)
deriving DecidableEq

namespace FieldKind

/-- The kinds that have a meaning of their own. -/
def builtins : List FieldKind :=
  [text, email, tel, textarea, select, checkbox, radio, date, number, url, password]

/-- The name of a kind in a definition. -/
def name : FieldKind → String
  | text => "text"
  | email => "email"
  | tel => "tel"
  | textarea => "textarea"
  | select => "select"
  | checkbox => "checkbox"
  | radio => "radio"
  | date => "date"
  | number => "number"
  | url => "url"
  | password => "password"
  | other name => name

/-- The kind of a name. -/
def ofName (s : String) : FieldKind :=
  (builtins.find? fun kind => kind.name == s).getD (other s)

theorem name_ofName (s : String) : (ofName s).name = s := by
  unfold ofName
  cases h : builtins.find? fun kind => kind.name == s with
  | none => rfl
  | some kind => simpa using List.find?_some h

end FieldKind

/-- How a condition compares a value with its own. -/
inductive Comparison where
  | equals
  | notEquals
  | contains
  | notContains
  | greaterThan
  | lessThan
  | isEmpty
  | isNotEmpty
  | inArray
  | unrecognized (name : String)
deriving DecidableEq

namespace Comparison

/-- The comparisons that have a meaning. -/
def known : List Comparison :=
  [equals, notEquals, contains, notContains, greaterThan, lessThan, isEmpty, isNotEmpty, inArray]

/-- The name of a comparison in a definition. -/
def name : Comparison → String
  | equals => "equals"
  | notEquals => "not_equals"
  | contains => "contains"
  | notContains => "not_contains"
  | greaterThan => "greater_than"
  | lessThan => "less_than"
  | isEmpty => "is_empty"
  | isNotEmpty => "is_not_empty"
  | inArray => "in_array"
  | unrecognized name => name

/-- The comparison of a name. -/
def ofName (s : String) : Comparison :=
  (known.find? fun comparison => comparison.name == s).getD (unrecognized s)

/-- Whether a comparison has no meaning here. -/
def isUnrecognized : Comparison → Bool
  | unrecognized _ => true
  | _ => false

theorem name_ofName (s : String) : (ofName s).name = s := by
  unfold ofName
  cases h : known.find? fun comparison => comparison.name == s with
  | none => rfl
  | some comparison => simpa using List.find?_some h

end Comparison

/-- A condition on the value of a field, by the field's name. -/
structure Condition where
  field : String
  comparison : Comparison
  value : Json := .null
deriving DecidableEq

/-- A call of a registered rule by its name. -/
structure RuleCall where
  rule : String
  options : Json := .null
deriving DecidableEq

/-- One of the values that a field offers. -/
structure Choice where
  value : Json
  label : String
deriving DecidableEq

/-- What the value of a field has to satisfy. -/
structure Constraints where
  required : Option Bool := none
  minLength : Option UInt64 := none
  maxLength : Option UInt64 := none
  pattern : Option String := none
  min : Option Binary64 := none
  max : Option Binary64 := none
  customRules : Option (List RuleCall) := none
deriving DecidableEq

namespace Constraints

/-- A value has to be given. -/
def isRequired (c : Constraints) : Bool := c.required.getD false

/-- The rules called by name, in the order of their declaration. -/
def ruleCalls (c : Constraints) : List RuleCall := c.customRules.getD []

/-- The constraints with a value that has to be given. -/
def require (c : Constraints) : Constraints := { c with required := some true }

/-- The constraints with one more rule called by name. -/
def withCall (c : Constraints) (call : RuleCall) : Constraints :=
  { c with customRules := some (c.ruleCalls ++ [call]) }

/-- Equality of two bounds as numbers. -/
def sameBound : Option Binary64 → Option Binary64 → Bool
  | none, none => true
  | some x, some y => x.same y
  | _, _ => false

/-- Equality of two lists of rule calls, with options compared as data. -/
def sameCalls : List RuleCall → List RuleCall → Bool
  | [], [] => true
  | a :: as, b :: bs => a.rule == b.rule && a.options.same b.options && sameCalls as bs
  | _, _ => false

/-- Equality as data: both zeros are one number. -/
def same (a b : Constraints) : Bool :=
  a.required == b.required && a.minLength == b.minLength && a.maxLength == b.maxLength &&
    a.pattern == b.pattern && sameBound a.min b.min && sameBound a.max b.max &&
    match a.customRules, b.customRules with
    | none, none => true
    | some as, some bs => sameCalls as bs
    | _, _ => false

end Constraints

/-- A field of a form. Its value is found in the data under its name, which may be dotted. -/
structure FieldDefinition where
  id : String
  name : String
  kind : FieldKind
  label : String := ""
  placeholder : Option String := none
  instructions : Option String := none
  defaultValue : Option Json := none
  choices : Option (List Choice) := none
  constraints : Option Constraints := none
  visibility : Option (List Condition) := none
deriving DecidableEq

namespace FieldDefinition

/-- A field of a kind, named by its identifier. -/
def ofKind (id : String) (kind : FieldKind) : FieldDefinition where
  id := id
  name := id
  kind := kind

def withName (f : FieldDefinition) (name : String) : FieldDefinition := { f with name := name }

def withLabel (f : FieldDefinition) (label : String) : FieldDefinition := { f with label := label }

def withDefault (f : FieldDefinition) (v : Json) : FieldDefinition :=
  { f with defaultValue := some v }

/-- A value has to be given. -/
def isRequired (f : FieldDefinition) : Bool := f.constraints.any Constraints.isRequired

/-- The conditions under which the field is shown; all of them have to hold. -/
def conditions (f : FieldDefinition) : List Condition := f.visibility.getD []

/-- The values that the field offers. -/
def offered (f : FieldDefinition) : List Choice := f.choices.getD []

/-- The field with one more value to offer. -/
def withChoice (f : FieldDefinition) (v : Json) (label : String) : FieldDefinition :=
  { f with choices := some (f.offered ++ [⟨v, label⟩]) }

/-- The field with one more condition. -/
def withCondition (f : FieldDefinition) (c : Condition) : FieldDefinition :=
  { f with visibility := some (f.conditions ++ [c]) }

end FieldDefinition

end LiveForm
