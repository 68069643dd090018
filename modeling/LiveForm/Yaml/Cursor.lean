/-!
# Places in a YAML text

A `Cursor` is what is left of a text, with the line and the column reached. Indentation is counted
in columns, so everything that reads characters goes through `Cursor.advance` or
`Cursor.nextLine`.

A line ends with a line feed, a carriage return, both, or one of the three line ends of Unicode.
-/

namespace LiveForm.Yaml

/-- A place in a text. -/
structure Cursor where
  rest : List Char
  /-- The number of characters before. -/
  index : Nat := 0
  line : Nat := 0
  column : Nat := 0

/-- A character that separates within a line. -/
def isGap (c : Char) : Bool := c == ' ' || c == '\t'

/-- A character that ends a line. -/
def isBreak (c : Char) : Bool :=
  c == '\n' || c == '\r' || c == '\u0085' || c == '\u2028' || c == '\u2029'

/-- A character of a name: a letter, a digit, a hyphen or an underscore. -/
def isNameChar (c : Char) : Bool := c.isAlphanum || c == '-' || c == '_'

/-- A character that a text may have at all. -/
def isAllowed (c : Char) : Bool :=
  let n := c.toNat
  n == 0x9 || n == 0xA || n == 0xD || (0x20 ≤ n && n ≤ 0x7E) || n == 0x85 ||
    (0xA0 ≤ n && n ≤ 0xFFFD) || 0x10000 ≤ n

/-- A line ends here. -/
def endsLine (c : Option Char) : Bool := c.all isBreak

/-- A word ends here. -/
def endsWord (c : Option Char) : Bool := c.all fun c => isGap c || isBreak c

namespace Cursor

/-- The character some places ahead. -/
def peek (c : Cursor) (ahead : Nat := 0) : Option Char := c.rest[ahead]?

/-- The character here is a given one. -/
def sees (c : Cursor) (x : Char) : Bool := c.peek == some x

/-- Go some characters ahead in the line. -/
def advance (c : Cursor) (count : Nat := 1) : Cursor :=
  { c with rest := c.rest.drop count, index := c.index + count, column := c.column + count }

/-- The characters in front that have a property, and the place behind them. -/
def span (c : Cursor) (p : Char → Bool) : List Char × Cursor :=
  let taken := c.rest.takeWhile p
  (taken, c.advance taken.length)

/-- The place behind the characters in front that have a property. -/
def skip (c : Cursor) (p : Char → Bool) : Cursor := (c.span p).2

/-- Go past the end of a line. -/
def nextLine (c : Cursor) : Cursor :=
  let width :=
    match c.rest with
    | '\r' :: '\n' :: _ => 2
    | x :: _ => if isBreak x then 1 else 0
    | [] => 0
  if width = 0 then c
  else { rest := c.rest.drop width, index := c.index + width, line := c.line + 1, column := 0 }

/-- The end of a line as it counts in a text: a line feed, or one of the two separators that stay
what they are. -/
def lineEnd (c : Cursor) : List Char :=
  match c.peek with
  | some x => if x == '\u2028' || x == '\u2029' then [x] else if isBreak x then ['\n'] else []
  | none => []

/-- Three characters that mark the start or the end of a document stand here. -/
def marksDocument (c : Cursor) (mark : Char) : Bool :=
  c.column == 0 && (c.rest.take 3 == [mark, mark, mark]) && endsWord (c.peek 3)

/-- The start or the end of a document is marked here. -/
def atDocument (c : Cursor) : Bool := c.marksDocument '-' || c.marksDocument '.'

end Cursor

end LiveForm.Yaml
