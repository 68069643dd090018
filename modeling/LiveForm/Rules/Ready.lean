import LiveForm.Json.Path
import LiveForm.Json.Writing
import LiveForm.Rules.Basic

/-!
# Ready-made rules of the program around

These rules can be registered under any name. Two say the same of every value, one repeats what it
was given, and two compare.
-/

namespace LiveForm.HostRule

/-- The message among the options. -/
def messageOption (options : Json) : Option String := (options.member? "message").bind Json.text?

/-- Refuses every value, with the message among the options. -/
def fail : HostRule := fun _ options _ => some ((messageOption options).getD "failed")

/-- Refuses every value, without a message. -/
def silent : HostRule := fun _ _ _ => some ""

/-- Accepts every value. -/
def pass : HostRule := fun _ _ _ => none

/-- Refuses every value with the text of what it was given. -/
def echo : HostRule := fun value options data =>
  some ((value.map Json.text).getD "<missing>" ++ "|" ++ options.text ++ "|" ++ data.text)

/-- Equality of two values that may not be there. -/
def sameIfAny : Option Json → Option Json → Bool
  | none, none => true
  | some a, some b => a.same b
  | _, _ => false

/-- Wants the value to be that of another field, which the options name. -/
def matchesField : HostRule := fun value options data => do
  let other ← (options.member? "field").bind Json.text?
  if sameIfAny value (data.get? other) then none else some "Values do not match"

/-- Wants nothing but the capital letters from A to Z in a text. -/
def uppercase : HostRule := fun value options _ => do
  let s ← value.bind Json.text?
  if s.toList.all fun c => 'A' ≤ c && c ≤ 'Z' then none else messageOption options

/-- The ready-made rule of a name. -/
def named? (name : String) : Option HostRule :=
  match name with
  | "fail" => some fail
  | "silent" => some silent
  | "pass" => some pass
  | "echo" => some echo
  | "matches" => some matchesField
  | "uppercase" => some uppercase
  | _ => none

end LiveForm.HostRule
