import LiveForm.Json.Basic
import LiveForm.Number.Reading
import LiveForm.Number.Writing

/-!
# Values as form inputs give them

A form field hands over a text, a number, a flag, a list, or nothing at all, and a rule asks it for
a number, a text or a yes. These readings take an `Option Json`: `none` is a value that is not
there. It is blank, untrue, and no number; only in `Json.equals` does it read as `null`.
-/

namespace LiveForm

namespace Number

/-- The text of a number for people. -/
def plainText : Number → String
  | int n _ => toString n
  | float x _ => x.plainText

end Number

namespace Json

/-- Nothing was given: no value, `null`, `false`, a blank text or an empty list. -/
def isBlank : Option Json → Bool
  | none | some .null | some (.bool false) => true
  | some (.str s) => Text.isBlank s
  | some (.arr items) => items.isEmpty
  | _ => false

/-- The value counts as a yes. No value, `null`, `false`, zero and the empty text do not. -/
def isTruthy : Option Json → Bool
  | none | some .null => false
  | some (.bool b) => b
  | some (.num n) => !n.toBinary64.isZero
  | some (.str s) => s ≠ ""
  | some (.arr _) | some (.obj _) => true

/-- The value as a number. A list of one item reads as the item. -/
def number : Json → Binary64
  | .null => .zero
  | .bool b => .ofInt (if b then 1 else 0)
  | .num n => n.toBinary64
  | .str s => .ofText s
  | .arr [] => .zero
  | .arr [only] => number only
  | .arr _ | .obj _ => .nan

/-- The value as a number; a value that is not there is none. -/
def toNumber : Option Json → Binary64
  | none => .nan
  | some v => v.number

mutual

/-- The value as a text. A list is the texts of its items with commas between. -/
def display : Json → String
  | .null => "null"
  | .bool b => if b then "true" else "false"
  | .num n => n.plainText
  | .str s => s
  | .arr items => String.intercalate "," (displayItems items)
  | .obj _ => "[object Object]"

/-- The texts of the items; that of `null` is empty here. -/
def displayItems : List Json → List String
  | [] => []
  | .null :: rest => "" :: displayItems rest
  | v :: rest => v.display :: displayItems rest

end

/-- The number of characters of the text; a list has the number of its items. -/
def length : Json → Nat
  | .str s => s.length
  | .arr items => items.length
  | v => v.display.length

/-- Equality of two values as a rule means it: numbers by their value, so `1` equals `1.0`, and a
value that is not there as `null`. Inside lists and objects it is `Json.same`. -/
def equals (left : Option Json) (right : Json) : Bool :=
  match left.getD .null, right with
  | .num a, .num b => a.toBinary64.same b.toBinary64
  | a, b => a.same b

end Json

end LiveForm
