import LiveForm.Json.Loose
import LiveForm.Pattern.Compile
import LiveForm.Text.Quoted

/-!
# Rules

A rule looks at a value, at its options and at the data of the form, and says what is wrong, if
anything. A `RuleRegistry` has rules by name. The built-in rules take their bound from the option
that has their own name; without one, or with one of another type, they accept every value. All but
`required` accept a blank value.

The rule `pattern` compiles the text of the option and keeps it in a `PatternCache`. A text that is
no pattern accepts every value.
-/

namespace LiveForm

/-- The rules that are always there. -/
inductive BuiltinRule where
  | required
  | minLength
  | maxLength
  | pattern
  | email
  | min
  | max
deriving DecidableEq

namespace BuiltinRule

/-- All built-in rules. -/
def all : List BuiltinRule := [required, minLength, maxLength, pattern, email, min, max]

/-- The name of a built-in rule, which is also that of its option. -/
def name : BuiltinRule → String
  | required => "required"
  | minLength => "minLength"
  | maxLength => "maxLength"
  | pattern => "pattern"
  | email => "email"
  | min => "min"
  | max => "max"

/-- What an address looks like: something, `@`, something with a dot inside, and no blanks. -/
def emailShape : Pattern :=
  let part := Pattern.repeated
    (.chars (Unicode.CharSet.complement (Unicode.whiteSpace.union [(0x40, 0x40)]))) 1 none
  .sequence
    [.look .textStart, part, .literal '@', part, .literal '.', part, .look .textEnd]

/-- A message when a condition holds. -/
def complain (condition : Bool) (message : String) : Option String :=
  if condition then some message else none

/-- A natural number as an option. -/
def naturalOption (options : Json) (key : String) : Option Nat :=
  match options.member? key with
  | some (.num n) => n.natural?
  | _ => none

/-- A number as an option. -/
def numberOption (options : Json) (key : String) : Option Binary64 :=
  match options.member? key with
  | some (.num n) => some n.toBinary64
  | _ => none

/-- A value that is there and not blank. -/
def given (value : Option Json) : Option Json := value.filter fun v => !Json.isBlank (some v)

/-- Apply a rule that does not need a pattern of its own. -/
def plain (rule : BuiltinRule) (value : Option Json) (options : Json) : Option String :=
  match rule with
  | required => complain (Json.isBlank value) "This field is required"
  | minLength => do
    let n ← naturalOption options rule.name
    let v ← given value
    complain (v.length < n) ("Must be at least " ++ toString n ++ " characters")
  | maxLength => do
    let n ← naturalOption options rule.name
    let v ← given value
    complain (n < v.length) ("Must be no more than " ++ toString n ++ " characters")
  | email => do
    let v ← given value
    complain (!emailShape.isMatch v.display) "Invalid email address"
  | min => do
    let bound ← numberOption options rule.name
    let v ← given value
    complain (v.number.lt bound) ("Must be at least " ++ bound.plainText)
  | max => do
    let bound ← numberOption options rule.name
    let v ← given value
    complain (bound.lt v.number) ("Must be no more than " ++ bound.plainText)
  | pattern => none

/-- Apply the rule `pattern`. -/
def matchPattern (value : Option Json) (options : Json) (cache : PatternCache) :
    Option String × PatternCache :=
  match (options.member? pattern.name).bind Json.text?, given value with
  | some source, some v =>
    match cache.compile? source with
    | (some p, cache) => (complain (!p.isMatch v.display) "Invalid format", cache)
    | (none, cache) => (none, cache)
  | _, _ => (none, cache)

/-- Apply a built-in rule. -/
def run (rule : BuiltinRule) (value : Option Json) (options : Json) (cache : PatternCache) :
    Option String × PatternCache :=
  if rule = pattern then matchPattern value options cache
  else (rule.plain value options, cache)

end BuiltinRule

/-- A rule of the program around: a function of the value, the options and the data. -/
abbrev HostRule := Option Json → Json → Json → Option String

/-- A rule. -/
inductive Rule where
  | builtin (rule : BuiltinRule)
  | host (rule : HostRule)

/-- Apply a rule. -/
def Rule.run (rule : Rule) (value : Option Json) (options data : Json) (cache : PatternCache) :
    Option String × PatternCache :=
  match rule with
  | builtin rule => rule.run value options cache
  | host rule => (rule value options data, cache)

/-- Rules by their names. -/
abbrev RuleRegistry := Keyed Rule

namespace RuleRegistry

/-- No rules. -/
def empty : RuleRegistry := []

/-- The built-in rules. -/
def builtins : RuleRegistry :=
  Keyed.ofPairs (BuiltinRule.all.map fun rule => (rule.name, Rule.builtin rule))

/-- A registry for a log: the names in their order. -/
def describe (rules : RuleRegistry) : String :=
  "RuleRegistry \x7b rules: [" ++ String.intercalate ", " (rules.keys.map Text.quoted) ++ "] \x7d"

end RuleRegistry

end LiveForm
