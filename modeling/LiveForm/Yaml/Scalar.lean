import LiveForm.Text.Hex
import LiveForm.Yaml.Cursor

/-!
# Scalars of a YAML text

There are five styles of a scalar: plain, in single quotes, in double quotes, and the literal and
the folded block. The first three are words with gaps between them. A gap within a line is kept; one
that has line ends is folded (`Gap.folded`): a single line end becomes a space, of several the
first is dropped.

Every reader gives the text and the place behind it, or `none` where the text is refused.
-/

namespace LiveForm.Yaml

/-- How a scalar is written. -/
inductive Style where
  | plain
  | singleQuoted
  | doubleQuoted
  | literal
  | folded
deriving DecidableEq

/-- What stands between two words. -/
structure Gap where
  /-- The blanks within the line. -/
  blanks : List Char := []
  /-- A line end was met. -/
  broken : Bool := false
  /-- The first line end. It is empty where it was escaped. -/
  first : List Char := []
  /-- The other line ends. -/
  others : List Char := []

namespace Gap

/-- The text that a gap is read as. -/
def folded (g : Gap) : List Char :=
  if g.broken then
    if g.first = ['\n'] then (if g.others = [] then [' '] else g.others) else g.first ++ g.others
  else g.blanks

/-- Read on in a gap. A tab left of a column `indent` of a new line is refused. -/
def read (indent : Nat) : Nat → Gap → Cursor → Option (Gap × Cursor)
  | 0, _, _ => none
  | fuel + 1, g, c =>
    match c.peek with
    | none => some (g, c)
    | some x =>
      if isGap x then
        if g.broken then
          if x = '\t' ∧ c.column < indent then none else read indent fuel g c.advance
        else read indent fuel { g with blanks := g.blanks ++ [x] } c.advance
      else if isBreak x then
        if g.broken then read indent fuel { g with others := g.others ++ c.lineEnd } c.nextLine
        else read indent fuel { g with blanks := [], broken := true, first := c.lineEnd } c.nextLine
      else some (g, c)

end Gap

namespace Cursor

/-- The gap here. -/
def gap (c : Cursor) (start : Gap := {}) (indent : Nat := 0) : Option (Gap × Cursor) :=
  Gap.read indent (c.rest.length + 1) start c

end Cursor

/-! ## Plain scalars -/

/-- The characters that separate inside brackets. -/
def isFlowMark (c : Char) : Bool := c == ',' || c == '[' || c == ']' || c == '{' || c == '}'

/-- A word of a plain scalar. A colon ends it in front of a gap, a bracket or a comma inside
brackets. -/
def plainWord (flow : Bool) : List Char → Option (List Char)
  | [] => some []
  | x :: rest =>
    if isGap x || isBreak x then some []
    else if flow && x == ':' && rest.head?.any fun y => isFlowMark y || y == '?' then none
    else if (x == ':' && endsWord rest.head?) || (flow && isFlowMark x) then some []
    else (plainWord flow rest).map (x :: ·)

/-- Read a plain scalar on, after a text and a gap. What is behind a line end has to be indented at
least to a column, unless brackets are open. Whether a line end was met last is given back. -/
def readPlain (flow : Bool) (indent : Nat) :
    Nat → List Char → Gap → Cursor → Option (List Char × Bool × Cursor)
  | 0, _, _, _ => none
  | fuel + 1, text, g, c =>
    if c.atDocument || c.sees '#' then some (text, g.broken, c)
    else do
      let word ← plainWord flow c.rest
      let (text, g) := if word.isEmpty then (text, g) else (text ++ g.folded ++ word, {})
      let c := c.advance word.length
      match c.peek with
      | none => return (text, g.broken, c)
      | some x =>
        if isGap x || isBreak x then
          let (g, c) ← c.gap g indent
          if !flow && c.column < indent then return (text, g.broken, c)
          else readPlain flow indent fuel text g c
        else return (text, g.broken, c)

/-! ## Quoted scalars -/

/-- The character with a code. -/
def charOf? (code : Nat) : Option Char :=
  if code.isValidChar then some (Char.ofNat code) else none

/-- What an escaped character stands for. -/
def escaped? (c : Char) : Option Char :=
  [('0', '\u0000'), ('a', '\u0007'), ('b', '\u0008'), ('t', '\t'), ('\t', '\t'), ('n', '\n'),
   ('v', '\u000b'), ('f', '\u000c'), ('r', '\r'), ('e', '\u001b'), (' ', ' '), ('"', '"'),
   ('/', '/'), ('\\', '\\'), ('N', '\u0085'), ('_', '\u00a0'), ('L', '\u2028'),
   ('P', '\u2029')].lookup c

/-- The number of digits of an escape by code. -/
def codeLength? (c : Char) : Option Nat := [('x', 2), ('u', 4), ('U', 8)].lookup c

/-- Where a word inside quotes ends. -/
inductive WordEnd where
  /-- At a gap or at the closing quote. -/
  | loose
  /-- Behind an escaped line end. -/
  | joined

/-- Read a word inside quotes on, after a text. -/
def readQuotedWord (quote : Char) :
    Nat → List Char → Cursor → Option (List Char × WordEnd × Cursor)
  | 0, _, _ => none
  | fuel + 1, text, c =>
    match c.peek with
    | none => some (text, .loose, c)
    | some x =>
      if isGap x || isBreak x then some (text, .loose, c)
      else if x = quote then
        if quote = '\'' ∧ c.peek 1 = some '\'' then
          readQuotedWord quote fuel (text ++ ['\'']) (c.advance 2)
        else some (text, .loose, c)
      else if quote = '"' ∧ x = '\\' then
        match c.peek 1 with
        | none => none
        | some y =>
          if isBreak y then some (text, .joined, c.advance.nextLine)
          else
            match codeLength? y with
            | some length =>
              let digits := (c.rest.drop 2).take length
              if digits.length < length then none
              else
                ((Text.hexValue? digits).bind charOf?).bind fun y =>
                  readQuotedWord quote fuel (text ++ [y]) (c.advance (2 + length))
            | none =>
              (escaped? y).bind fun y => readQuotedWord quote fuel (text ++ [y]) (c.advance 2)
      else readQuotedWord quote fuel (text ++ [x]) c.advance

/-- Read on inside quotes, after a text, up to the closing quote. -/
def readQuoted (quote : Char) : Nat → List Char → Cursor → Option (List Char × Cursor)
  | 0, _, _ => none
  | fuel + 1, text, c =>
    if c.atDocument || c.peek.isNone then none
    else do
      let (text, wordEnd, c) ← readQuotedWord quote (c.rest.length + 1) text c
      if c.sees quote then return (text, c.advance)
      else
        let start : Gap :=
          match wordEnd with
          | .loose => {}
          | .joined => { broken := true }
        let (g, c) ← c.gap start
        readQuoted quote fuel (text ++ g.folded) c

/-! ## Block scalars -/

/-- What is done with the line ends at the end of a block. -/
inductive Chomping where
  | strip
  | clip
  | keep
deriving DecidableEq

def chomping? : Option Char → Option Chomping
  | some '+' => some .keep
  | some '-' => some .strip
  | _ => none

/-- The header of a block, behind its first character: what is done with its end, and the
indentation if it is told. They may come in either order. -/
def blockHeader (c : Cursor) : Option (Chomping × Option Nat × Cursor) :=
  let digit : Option Char → Option Nat := fun x =>
    (x.filter Char.isDigit).map fun x => x.toNat - '0'.toNat
  let (chomping, told, c) :=
    match chomping? c.peek, digit c.peek with
    | some chomping, _ =>
      match digit (c.peek 1) with
      | some n => (chomping, some n, c.advance 2)
      | none => (chomping, none, c.advance)
    | none, some n =>
      match chomping? (c.peek 1) with
      | some chomping => (chomping, some n, c.advance 2)
      | none => (.clip, some n, c.advance)
    | none, none => (.clip, none, c)
  if told = some 0 then none else some (chomping, told, c)

/-- The rest of a line that may have a comment only. -/
def restOfLine (c : Cursor) : Option Cursor :=
  let c := c.skip isGap
  let c := if c.sees '#' then c.skip fun x => !isBreak x else c
  if endsLine c.peek then some c.nextLine else none

/-- Read blank lines of a block, up to a line with more than its indentation. `indent` is the
block's indentation, if it is known, and `widest` the widest one met. -/
def blankLines (indent : Option Nat) :
    Nat → Nat → List Char → Cursor → Option (Nat × List Char × Cursor)
  | 0, _, _, _ => none
  | fuel + 1, widest, ends, c =>
    let blanks := (c.rest.takeWhile (· == ' ')).length
    let c := c.advance (indent.elim blanks fun n => min blanks (n - c.column))
    let widest := max widest c.column
    if c.sees '\t' && indent.all fun n => c.column < n then none
    else if c.peek.any isBreak then blankLines indent fuel widest (ends ++ c.lineEnd) c.nextLine
    else some (widest, ends, c)

/-- A block while it is read. -/
structure BlockText where
  text : List Char := []
  /-- The end of the last line. -/
  lineEnd : List Char := []
  /-- The blank lines behind it. -/
  ends : List Char
  /-- The last line starts with a blank. -/
  indented : Bool := false

/-- Read the lines of a block with a known indentation. A folded block joins two lines unless one
of them starts with a blank. -/
def readBlockLines (style : Style) (indent : Nat) :
    Nat → BlockText → Cursor → Option (BlockText × Cursor)
  | 0, _, _ => none
  | fuel + 1, b, c =>
    if c.column = indent ∧ c.peek.isSome then do
      let indented := c.peek.any isGap
      let joint :=
        if style = .folded ∧ b.lineEnd = ['\n'] ∧ !b.indented ∧ !indented then
          if b.ends = [] then [' '] else []
        else b.lineEnd
      let (line, c) := c.span fun x => !isBreak x
      let (_, ends, next) ← blankLines (some indent) (c.rest.length + 1) 0 [] c.nextLine
      readBlockLines style indent fuel
        ⟨b.text ++ joint ++ b.ends ++ line, c.lineEnd, ends, indented⟩ next
    else some (b, c)

/-- Read a block behind its first character. `parent` is one more than the column of the block
around, or 0. -/
def readBlock (style : Style) (parent : Nat) (c : Cursor) : Option (List Char × Cursor) := do
  let (chomping, told, c) ← blockHeader c
  let c ← restOfLine c
  let told := told.map (parent - 1 + ·)
  let (widest, ends, c) ← blankLines told (c.rest.length + 1) 0 [] c
  let indent := told.getD (max (max widest parent) 1)
  let (b, c) ← readBlockLines style indent (c.rest.length + 1) { ends := ends } c
  let text := if chomping = .strip then b.text else b.text ++ b.lineEnd
  return (if chomping = .keep then text ++ b.ends else text, c)

end LiveForm.Yaml
