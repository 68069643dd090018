import LiveForm.Unicode.Property

/-!
# Texts quoted for a reader

Messages quote a text between double quotes. The quote, the backslash, the line breaks, the tab and
the null character have short escapes. A character that would not show, or that would attach to the
one before it, is given by its number.
-/

namespace LiveForm.Text

/-- The categories of the characters that do not show: controls, formats, private use, what is not
assigned, and separators other than the blank. -/
def hiddenCategories : List String := ["Cc", "Cf", "Co", "Cn", "Zl", "Zp", "Zs"]

/-- Whether a character shows by itself. -/
def isPrintable (c : Char) : Bool :=
  if c.toNat < 0x7F then 0x20 ≤ c.toNat
  else
    !hiddenCategories.contains (Unicode.categoryOf c) &&
      !Unicode.graphemeExtend.contains c.toNat

/-- A character inside quotes. -/
def quoteChar (c : Char) : List Char :=
  if c = '"' then ['\\', '"']
  else if c = '\\' then ['\\', '\\']
  else if c = '\n' then ['\\', 'n']
  else if c = '\r' then ['\\', 'r']
  else if c = '\t' then ['\\', 't']
  else if c = '\x00' then ['\\', '0']
  else if isPrintable c then [c]
  else '\\' :: 'u' :: '\x7b' :: (Nat.toDigits 16 c.toNat ++ ['\x7d'])

/-- A text between quotes. -/
def quoted (s : String) : String :=
  String.ofList ('"' :: (s.toList.flatMap quoteChar ++ ['"']))

end LiveForm.Text
