/-!
# Blank characters

Whitespace here is the Unicode property `White_Space`: twenty-five code points. The zero-width
space U+200B and the byte order mark U+FEFF are outside it. `Text.trimChars` cuts blanks at both
ends and `Text.isBlank` asks whether anything would be left.
-/

namespace LiveForm.Text

/-- Whether a character has the property `White_Space`. -/
def blankChar (c : Char) : Bool :=
  let n := c.toNat
  (9 ≤ n && n ≤ 13) || n == 0x20 || n == 0x85 || n == 0xA0 || n == 0x1680 ||
    (0x2000 ≤ n && n ≤ 0x200A) || n == 0x2028 || n == 0x2029 || n == 0x202F ||
    n == 0x205F || n == 0x3000

/-- The characters without the blanks in front. -/
def dropBlanks (cs : List Char) : List Char :=
  cs.dropWhile blankChar

/-- The characters without the blanks at either end. -/
def trimChars (cs : List Char) : List Char :=
  (dropBlanks (dropBlanks cs).reverse).reverse

/-- Whether a text has nothing but blanks. -/
def isBlank (s : String) : Bool :=
  s.toList.all blankChar

end LiveForm.Text
