import LiveForm.Json.Basic
import LiveForm.Number.Writing

/-!
# The text of a value

The text has no blanks between its parts. Members stand in the order of their keys. In a string,
the quote, the backslash and the characters below U+0020 are escaped, and nothing else.
-/

namespace LiveForm

namespace Number

/-- The number as a token. A number that is not an integer shows its point or exponent. -/
def chars : Number → List Char
  | int n _ => (if n < 0 then ['-'] else []) ++ Nat.toDigits 10 n.natAbs
  | float x _ => NumberStyle.json.write x

end Number

namespace Json

/-- A digit of base sixteen. -/
def hexDigit (n : Nat) : Char := "0123456789abcdef".toList.getD n '0'

/-- A character inside a string. -/
def escape (c : Char) : List Char :=
  if c = '"' then ['\\', '"']
  else if c = '\\' then ['\\', '\\']
  else if c = '\n' then ['\\', 'n']
  else if c = '\r' then ['\\', 'r']
  else if c = '\t' then ['\\', 't']
  else if c = '\x08' then ['\\', 'b']
  else if c = '\x0c' then ['\\', 'f']
  else if c.toNat < 0x20 then
    ['\\', 'u', '0', '0', hexDigit (c.toNat / 16), hexDigit (c.toNat % 16)]
  else [c]

/-- A string with its quotes. -/
def quote (s : String) : List Char := '"' :: (s.toList.flatMap escape ++ ['"'])

mutual

/-- The characters of a value. -/
def chars : Json → List Char
  | .null => ['n', 'u', 'l', 'l']
  | .bool true => ['t', 'r', 'u', 'e']
  | .bool false => ['f', 'a', 'l', 's', 'e']
  | .num n => n.chars
  | .str s => quote s
  | .arr items => '[' :: (itemChars items ++ [']'])
  | .obj members => '\x7b' :: (memberChars members ++ ['\x7d'])

/-- The items with commas between. -/
def itemChars : List Json → List Char
  | [] => []
  | [v] => v.chars
  | v :: rest => v.chars ++ ',' :: itemChars rest

/-- The members with commas between. -/
def memberChars : List (String × Json) → List Char
  | [] => []
  | [(k, v)] => quote k ++ ':' :: v.chars
  | (k, v) :: rest => quote k ++ ':' :: (v.chars ++ ',' :: memberChars rest)

end

/-- The text of a value. -/
def text (v : Json) : String := String.ofList v.chars

end Json

end LiveForm
