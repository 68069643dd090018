import LiveForm.Definition.Writing
import LiveForm.Event.Basic
import LiveForm.Json.Path
import LiveForm.Rules.Basic

/-!
# Validation

`Validator.checks` lists the rules that a value has to pass, in their order: `required`; if the
value is not blank, those of the constraints that are set, `email` for fields of that kind, and the
custom rules. The first message that is not empty is the error. A rule that is not registered
passes.

The constraints are given to the rules as a value. That value is kept per field identifier and
used again as long as the constraints are the same (`Constraints.same`).
-/

namespace LiveForm

/-- Rules, with what is kept between two validations. -/
structure Validator where
  rules : RuleRegistry := .builtins
  patterns : PatternCache := []
  /-- By field identifier, constraints and the value made of them. -/
  options : Keyed (Constraints × Json) := []

namespace Validator

/-- Register a rule of the program around under a name. -/
def addRule (v : Validator) (name : String) (rule : HostRule) : Validator :=
  { v with rules := Keyed.insert v.rules name (.host rule) }

/-- The constraints that are rules of their own, in the order in which they are checked. -/
def constraintRules : List BuiltinRule := [.minLength, .maxLength, .pattern, .min, .max]

/-- The value that the rules are given for the constraints of a field. -/
def optionsFor (v : Validator) (field : FieldDefinition) (spec : Constraints) : Json × Validator :=
  let made := spec.toJson
  let remembered := { v with options := Keyed.insert v.options field.id (spec, made) }
  match Keyed.find? v.options field.id with
  | some (known, options) => if known.same spec then (options, v) else (made, remembered)
  | none => (made, remembered)

/-- The names of the rules that a value has to pass, each with its options. -/
def checks (field : FieldDefinition) (spec : Constraints) (options : Json) (value : Option Json) :
    List (String × Json) :=
  (if spec.isRequired then [(BuiltinRule.required.name, options)] else []) ++
    if Json.isBlank value then []
    else
      ((constraintRules.map BuiltinRule.name).filter fun name =>
          (options.member? name).isSome).map (fun name => (name, options)) ++
        (if field.kind = .email then [(BuiltinRule.email.name, options)] else []) ++
        spec.ruleCalls.map fun call => (call.rule, call.options)

/-- The message of a rule, if the rule is registered and the message is not empty. -/
def call (v : Validator) (name : String) (value : Option Json) (options data : Json) :
    Option String × Validator :=
  match Keyed.find? v.rules name with
  | none => (none, v)
  | some rule =>
    let (message, patterns) := rule.run value options data v.patterns
    (message.filter fun m => m ≠ "", { v with patterns := patterns })

/-- The first message of several rules. The rules after it are not called. -/
def firstMessage (v : Validator) (value : Option Json) (data : Json) :
    List (String × Json) → Option String × Validator
  | [] => (none, v)
  | (name, options) :: rest =>
    match v.call name value options data with
    | (some message, v) => (some message, v)
    | (none, v) => firstMessage v value data rest

/-- What is wrong with the value of a field. -/
def validateField (v : Validator) (field : FieldDefinition) (value : Option Json) (data : Json) :
    Option String × Validator :=
  match field.constraints with
  | none => (none, v)
  | some spec =>
    let (options, v) := v.optionsFor field spec
    v.firstMessage value data (checks field spec options value)

/-- Add what is wrong with the values of several fields. Of two fields with one name, the later one
with an error counts. -/
def gather (v : Validator) (data : Json) (errors : Errors) :
    List FieldDefinition → Errors × Validator
  | [] => (errors, v)
  | field :: rest =>
    match v.validateField field (data.get? field.name) data with
    | (some message, v) => gather v data (Keyed.insert errors field.name message) rest
    | (none, v) => gather v data errors rest

/-- What is wrong with the values of fields, by the fields' names. -/
def validateAll (v : Validator) (fields : List FieldDefinition) (data : Json) :
    Errors × Validator :=
  v.gather data [] fields

/-- Whether the patterns of fields compile. Those before the first that does not are kept. -/
def checkFields (v : Validator) : List FieldDefinition → Except FormError Unit × Validator
  | [] => (.ok (), v)
  | field :: rest =>
    match field.constraints.bind Constraints.pattern with
    | none => checkFields v rest
    | some source =>
      match v.patterns.compile? source with
      | (some _, patterns) => checkFields { v with patterns := patterns } rest
      | (none, patterns) => (.error (.invalidPattern field.id), { v with patterns := patterns })

/-- Whether the patterns of a definition compile. -/
def checkPatterns (v : Validator) (definition : FormDefinition) :
    Except FormError Unit × Validator :=
  v.checkFields definition.fields

end Validator

end LiveForm
