import LiveForm.Unicode.Property
import LiveForm.Unicode.Script

/-!
# Named sets of characters in patterns

A name stands for a property, a general category or a script, in this order. Case, blanks,
underscores and hyphens do not count, nor does `is` in front.
-/

namespace LiveForm.Unicode

/-- A name as it is looked up. -/
def normalName (name : String) : String :=
  let kept := (name.toList.filter fun c => c.toNat < 0x80).map Char.toLower
  let (started, rest) :=
    match kept with
    | 'i' :: 's' :: rest => (true, rest)
    | cs => (false, cs)
  let rest := rest.filter fun c => c ≠ ' ' && c ≠ '_' && c ≠ '-'
  if started && rest == ['c'] then "isc" else String.ofList rest

/-- The set of a general category. -/
def category? (name : String) : Option CharSet :=
  if name = "any" then some [(0, lastCode)]
  else if name = "assigned" then some (withCategory ["Cn"]).complement
  else if name = "ascii" then some [(0, 0x7F)]
  else
    (categoryNames.find? fun (names, _) => names.contains name).map fun (_, categories) =>
      withCategory categories

/-- The set of a name. `cf`, `sc` and `lc` are categories, though properties have these names
too. -/
def named? (name : String) : Option CharSet :=
  let name := normalName name
  let property :=
    if name = "cf" ∨ name = "sc" ∨ name = "lc" then none else withProperty? name
  (property.or (category? name)).or (withScript? name)

/-- The set of a property that has a value. -/
def namedValue? (property value : String) : Option CharSet :=
  let property := normalName property
  if property = "gc" ∨ property = "generalcategory" then category? (normalName value)
  else if property = "sc" ∨ property = "script" then withScript? (normalName value)
  else none

/-- The sets with names inside brackets and colons. -/
def bracketed? (name : String) : Option CharSet :=
  match name with
  | "alnum" => some [(0x30, 0x39), (0x41, 0x5A), (0x61, 0x7A)]
  | "alpha" => some [(0x41, 0x5A), (0x61, 0x7A)]
  | "ascii" => some [(0, 0x7F)]
  | "blank" => some [(0x9, 0x9), (0x20, 0x20)]
  | "cntrl" => some [(0, 0x1F), (0x7F, 0x7F)]
  | "digit" => some [(0x30, 0x39)]
  | "graph" => some [(0x21, 0x7E)]
  | "lower" => some [(0x61, 0x7A)]
  | "print" => some [(0x20, 0x7E)]
  | "punct" => some [(0x21, 0x2F), (0x3A, 0x40), (0x5B, 0x60), (0x7B, 0x7E)]
  | "space" => some [(0x9, 0xD), (0x20, 0x20)]
  | "upper" => some [(0x41, 0x5A)]
  | "word" => some [(0x30, 0x39), (0x41, 0x5A), (0x5F, 0x5F), (0x61, 0x7A)]
  | "xdigit" => some [(0x30, 0x39), (0x41, 0x46), (0x61, 0x66)]
  | _ => none

/-- Decimal digits. -/
def decimalDigits : CharSet := withCategory ["Nd"]

/-- The digits of ASCII. -/
def asciiDigits : CharSet := [(0x30, 0x39)]

/-- The blanks of ASCII. -/
def asciiSpace : CharSet := [(0x9, 0xD), (0x20, 0x20)]

end LiveForm.Unicode
