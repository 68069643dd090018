import LiveForm.Yaml.Scalar

/-!
# Tokens of a YAML text

Indentation becomes tokens: where a block is indented further than the one around, its start is a
token, and so is its end where the indentation goes back. A key is known only at its colon. Until
then its place is kept (`PendingKey`), and the tokens in front of the key are put there at the end
(`Token.withKeys`).

A key that is not followed by a colon within its line and 1024 characters is none. In a block, what
stands at the column of the block's keys has to be one.
-/

namespace LiveForm.Yaml

/-- A piece of a YAML text. -/
inductive Token where
  | version (major minor : Nat)
  /-- What a handle of tags stands for. -/
  | handle (name meaning : String)
  | documentStart
  | documentEnd
  | blockSequenceStart
  | blockMappingStart
  | blockEnd
  | flowSequenceStart
  | flowSequenceEnd
  | flowMappingStart
  | flowMappingEnd
  | blockEntry
  | flowEntry
  | key
  | value
  | alias (name : String)
  | anchor (name : String)
  | tag (handle suffix : String)
  | scalar (text : String) (style : Style)
deriving DecidableEq

/-! ## Tags and directives -/

/-- A character that a tag may have. Commas and brackets only stand in a tag between angles. -/
def isTagChar (verbatim : Bool) (c : Char) : Bool :=
  isNameChar c || ";/?:@&=+$.!~*'()%".toList.contains c ||
    (verbatim && (c == ',' || c == '[' || c == ']'))

/-- The number of bytes of a character, by its first byte. -/
def byteCount? (first : Nat) : Option Nat :=
  if first < 0x80 then some 1
  else if first / 0x20 = 0x6 then some 2
  else if first / 0x10 = 0xE then some 3
  else if first / 0x8 = 0x1E then some 4
  else none

/-- Bytes written as a percent sign and two digits each. -/
def escapedBytes? : Nat → List Char → Option (List Nat)
  | 0, _ => some []
  | count + 1, '%' :: a :: b :: rest => do
    return (← Text.hexValue? [a, b]) :: (← escapedBytes? count rest)
  | _ + 1, _ => none

/-- The character with given bytes. -/
def charOfBytes? : List Nat → Option Char
  | [a] => charOf? a
  | [a, b] => charOf? (a % 0x20 * 0x40 + b % 0x40)
  | [a, b, c] => charOf? ((a % 0x10 * 0x40 + b % 0x40) * 0x40 + c % 0x40)
  | [a, b, c, d] => charOf? (((a % 0x8 * 0x40 + b % 0x40) * 0x40 + c % 0x40) * 0x40 + d % 0x40)
  | _ => none

/-- The text of a tag, with its escapes undone. -/
def unescapeTag : Nat → List Char → Option (List Char)
  | 0, _ => none
  | _ + 1, [] => some []
  | fuel + 1, '%' :: rest => do
    let [first] ← escapedBytes? 1 ('%' :: rest) | none
    let count ← byteCount? first
    let bytes ← escapedBytes? count ('%' :: rest)
    if bytes.drop 1 |>.all fun b => b / 0x40 == 2 then
      return (← charOfBytes? bytes) :: (← unescapeTag fuel (rest.drop (3 * count - 1)))
    else none
  | fuel + 1, c :: rest => (unescapeTag fuel rest).map (c :: ·)

/-- The characters of a tag here. -/
def readTagText (verbatim : Bool) (c : Cursor) : Option (List Char × Cursor) := do
  let (raw, c) := c.span (isTagChar verbatim)
  return (← unescapeTag (raw.length + 1) raw, c)

/-- A handle of tags: an exclamation mark, or a name between two. -/
def readHandle (c : Cursor) : Option (List Char × Cursor) :=
  if c.sees '!' then
    let (name, c) := c.advance.span isNameChar
    if c.sees '!' then some ('!' :: name ++ ['!'], c.advance) else some ('!' :: name, c)
  else none

/-- A tag. -/
def readTag (flow : Bool) (c : Cursor) : Option (Token × Cursor) := do
  let (token, c) ←
    if c.peek 1 = some '<' then do
      let (suffix, c) ← readTagText true (c.advance 2)
      if suffix.isEmpty || !c.sees '>' then none
      else pure (Token.tag "" (String.ofList suffix), c.advance)
    else do
      let (handle, c) ← readHandle c
      let (suffix, c) ← readTagText false c
      if 1 < handle.length && handle.getLast? == some '!' then
        if suffix.isEmpty then none
        else pure (Token.tag (String.ofList handle) (String.ofList suffix), c)
      else
        let suffix := handle.drop 1 ++ suffix
        if suffix.isEmpty then pure (Token.tag "" "!", c)
        else pure (Token.tag "!" (String.ofList suffix), c)
  if endsWord c.peek || (flow && c.sees ',') then return (token, c) else none

/-- A number of at most nine digits. -/
def readVersionNumber (c : Cursor) : Option (Nat × Cursor) :=
  let (digits, c) := c.span Char.isDigit
  if digits.isEmpty || 9 < digits.length then none
  else some (digits.foldl (fun n d => 10 * n + (d.toNat - '0'.toNat)) 0, c)

/-- A directive, behind its percent sign. -/
def readDirective (c : Cursor) : Option (Token × Cursor) := do
  let (name, c) := c.span isNameChar
  if !endsWord c.peek then none
  else
    let c := c.skip isGap
    let (token, c) ←
      match String.ofList name with
      | "YAML" => do
        let (major, c) ← readVersionNumber c
        if !c.sees '.' then none
        else
          let (minor, c) ← readVersionNumber c.advance
          pure (Token.version major minor, c)
      | "TAG" => do
        let (handle, c) ← readHandle c
        if (handle ≠ ['!'] && handle.getLast? != some '!') || !(c.peek.any isGap) then none
        else
          let (meaning, c) ← readTagText true (c.skip isGap)
          if meaning.isEmpty || !endsWord c.peek then none
          else pure (Token.handle (String.ofList handle) (String.ofList meaning), c)
      | _ => none
    return (token, ← restOfLine c)

/-! ## Keys and indentation -/

/-- A place where a key may have started. -/
structure PendingKey where
  /-- The number of tokens before. -/
  place : Nat
  /-- Only a key may stand there. -/
  required : Bool
  index : Nat
  line : Nat
  column : Nat

/-- The tokens read, and what is open. -/
structure Scan where
  cursor : Cursor
  /-- The last token first. -/
  tokens : List Token := []
  /-- Where keys turned out to start, the last place first, and whether a mapping starts there. -/
  keys : List (Nat × Bool) := []
  /-- The columns of the open blocks, the inner ones first. -/
  columns : List Nat := []
  /-- A key may start here. -/
  keyAllowed : Bool := true
  /-- Where a key may have started, inside the innermost bracket that is open. -/
  pending : Option PendingKey := none
  /-- The same for the brackets around, and for the text outside brackets. -/
  outer : List (Option PendingKey) := []

namespace Scan

variable (s : Scan)

/-- A bracket is open. -/
def inFlow : Bool := !s.outer.isEmpty

/-- One more than the column of the innermost block, or 0. -/
def indent : Nat :=
  match s.columns with
  | column :: _ => column + 1
  | [] => 0

/-- Add a token. -/
def push (t : Token) : Scan := { s with tokens := t :: s.tokens }

/-- Start a block at a column, unless one is open there. -/
def openBlock (column : Nat) (start : Token) : Scan :=
  if !s.inFlow && s.indent ≤ column then
    { s with columns := column :: s.columns, tokens := start :: s.tokens }
  else s

/-- End the blocks that are indented as far as a column or further. -/
def closeBlocks (column : Nat) : Scan :=
  if s.inFlow then s
  else
    let ended := s.columns.takeWhile fun started => column ≤ started
    { s with
      columns := s.columns.drop ended.length
      tokens := List.replicate ended.length .blockEnd ++ s.tokens }

/-- Forget a key that turns out to be none. -/
def dropKey : Option Scan :=
  if s.pending.any PendingKey.required then none else some { s with pending := none }

/-- A key may start here. -/
def markKey : Option Scan :=
  if s.keyAllowed then do
    let c := s.cursor
    let required := !s.inFlow && s.columns.head? == some c.column
    let s ← s.dropKey
    return { s with pending := some ⟨s.tokens.length, required, c.index, c.line, c.column⟩ }
  else some s

/-- A key cannot go on here. -/
def isStale (k : PendingKey) : Bool :=
  k.line < s.cursor.line || k.index + 1024 < s.cursor.index

/-- Forget the keys that cannot go on. -/
def dropStale : Option Scan :=
  let fresh (k : Option PendingKey) : Option (Option PendingKey) :=
    if k.any s.isStale then if k.any PendingKey.required then none else some none else some k
  do return { s with pending := ← fresh s.pending, outer := ← s.outer.mapM fresh }

/-- Go past blanks, comments and line ends. Tabs do not count as blanks where a key may start in a
block. -/
def toToken : Nat → Scan → Scan
  | 0, s => s
  | fuel + 1, s =>
    let c := if s.cursor.column = 0 ∧ s.cursor.sees '\ufeff' then s.cursor.advance else s.cursor
    let tabs := s.inFlow || !s.keyAllowed
    let c := c.skip fun x => x == ' ' || (tabs && x == '\t')
    let c := if c.sees '#' then c.skip fun x => !isBreak x else c
    if c.peek.any isBreak then
      toToken fuel { s with cursor := c.nextLine, keyAllowed := s.keyAllowed || !s.inFlow }
    else { s with cursor := c }

/-! ## One token -/

/-- Add a token of some characters. -/
def take (count : Nat) (t : Token) : Scan :=
  { s with cursor := s.cursor.advance count, tokens := t :: s.tokens }

/-- Add a token that was read by itself. -/
def takeRead (read : Option (Token × Cursor)) : Option Scan := do
  let (t, c) ← read
  return { s with cursor := c, tokens := t :: s.tokens }

/-- Forget the key, and say whether a key may start behind. -/
def settle (keyAllowed : Bool) : Option Scan :=
  s.dropKey.map fun s => { s with keyAllowed := keyAllowed }

/-- End all blocks in front of a directive or a mark of a document. -/
def leave : Option Scan := (s.closeBlocks 0).settle false

/-- A bracket that opens. -/
def enterFlow (t : Token) : Option Scan := do
  let s ← s.markKey
  return { s with outer := s.pending :: s.outer, pending := none, keyAllowed := true }.take 1 t

/-- A bracket that closes. -/
def exitFlow (t : Token) : Option Scan := do
  let s ← s.dropKey
  let s : Scan :=
    match s.outer with
    | pending :: outer => { s with pending := pending, outer := outer }
    | [] => s
  return { s with keyAllowed := false }.take 1 t

/-- The hyphen in front of an item. -/
def item : Option Scan :=
  if !s.inFlow && !s.keyAllowed then none
  else do
    let s ← (s.openBlock s.cursor.column .blockSequenceStart).settle true
    return s.take 1 .blockEntry

/-- The question mark in front of a key. -/
def explicitKey : Option Scan :=
  if !s.inFlow && !s.keyAllowed then none
  else do
    let s ← (s.openBlock s.cursor.column .blockMappingStart).settle (!s.inFlow)
    return s.take 1 .key

/-- The colon in front of a value. -/
def valueMark : Option Scan :=
  match s.pending with
  | some k =>
    let starts := !s.inFlow && s.indent ≤ k.column
    let columns := if starts then k.column :: s.columns else s.columns
    some ({ s with
      keys := (k.place, starts) :: s.keys, columns := columns, pending := none,
      keyAllowed := false }.take 1 .value)
  | none =>
    if !s.inFlow && !s.keyAllowed then none
    else
      some ({ s.openBlock s.cursor.column .blockMappingStart with
        keyAllowed := !s.inFlow }.take 1 .value)

/-- The name of an anchor or of an alias, behind its mark. -/
def readAnchor (make : String → Token) : Option (Token × Cursor) :=
  let (name, c) := s.cursor.advance.span isNameChar
  if name.isEmpty then none
  else if endsWord c.peek || c.peek.any "?:,]\x7d%@\x60".toList.contains then
    some (make (String.ofList name), c)
  else none

/-- What may stand in front of a key's text, or be a key by itself. -/
def nodePart (read : Option (Token × Cursor)) : Option Scan := do
  let s ← s.markKey
  takeRead { s with keyAllowed := false } read

/-- A block scalar. -/
def block (style : Style) : Option Scan := do
  let s ← s.settle true
  s.takeRead do
    let (text, c) ← readBlock style s.indent s.cursor.advance
    return (.scalar (String.ofList text) style, c)

/-- A scalar in quotes. -/
def quoted (quote : Char) (style : Style) : Option Scan :=
  s.nodePart do
    let (text, c) ← readQuoted quote (s.cursor.rest.length + 1) [] s.cursor.advance
    return (.scalar (String.ofList text) style, c)

/-- A plain scalar. A key may start behind it if it ends with a line. -/
def plain : Option Scan := do
  let s ← s.markKey
  let (text, broken, c) ←
    readPlain s.inFlow s.indent (s.cursor.rest.length + 1) [] {} s.cursor
  return { s with
    cursor := c, keyAllowed := broken, tokens := .scalar (String.ofList text) .plain :: s.tokens }

/-- The characters that a plain scalar cannot start with. Three of them can in front of a word. -/
def startsPlain (x : Char) : Bool :=
  let apart := endsWord (s.cursor.peek 1)
  if x = '-' then !(s.cursor.peek 1).any isGap
  else if x = '?' ∨ x = ':' then !s.inFlow && !apart
  else !isGap x && !",[]\x7b\x7d#&*!|>'\"%@\x60".toList.contains x

/-- Add the token that starts with a character. -/
def tokenAt (x : Char) : Option Scan :=
  let c := s.cursor
  let apart := endsWord (c.peek 1)
  if c.column = 0 ∧ x = '%' then do
    let s ← s.leave
    s.takeRead (readDirective c.advance)
  else if c.marksDocument '-' then s.leave.map fun s => s.take 3 .documentStart
  else if c.marksDocument '.' then s.leave.map fun s => s.take 3 .documentEnd
  else
    match x with
    | '[' => s.enterFlow .flowSequenceStart
    | '{' => s.enterFlow .flowMappingStart
    | ']' => s.exitFlow .flowSequenceEnd
    | '}' => s.exitFlow .flowMappingEnd
    | ',' => (s.settle true).map fun s => s.take 1 .flowEntry
    | '*' => s.nodePart (s.readAnchor .alias)
    | '&' => s.nodePart (s.readAnchor .anchor)
    | '!' => s.nodePart (readTag s.inFlow c)
    | '\'' => s.quoted '\'' .singleQuoted
    | '"' => s.quoted '"' .doubleQuoted
    | _ =>
      if x = '-' ∧ apart then s.item
      else if x = '?' ∧ (s.inFlow ∨ apart) then s.explicitKey
      else if x = ':' ∧ (s.inFlow ∨ apart) then s.valueMark
      else if x = '|' ∧ !s.inFlow then s.block .literal
      else if x = '>' ∧ !s.inFlow then s.block .folded
      else if s.startsPlain x then s.plain
      else none

/-- Read tokens to the end of the text. -/
def run : Nat → Scan → Option Scan
  | 0, _ => none
  | fuel + 1, s => do
    let s ← (toToken (s.cursor.rest.length + 1) s).dropStale
    match s.cursor.peek with
    | none => s.leave
    | some x =>
      let s := s.closeBlocks (s.cursor.column + 1)
      run fuel (← s.tokenAt x)

end Scan

namespace Token

/-- Put the tokens in front of keys at their places. The tokens come last first, and so do the
places. -/
def withKeys : List (Nat × Bool) → List Token → List Token → List Token
  | _, [], acc => acc
  | keys, t :: rest, acc =>
    match keys.find? fun k => k.1 == rest.length with
    | some (_, true) => withKeys keys rest (.blockMappingStart :: .key :: t :: acc)
    | some (_, false) => withKeys keys rest (.key :: t :: acc)
    | none => withKeys keys rest (t :: acc)

/-- The tokens of a text, unless the text is refused. -/
def ofText? (text : String) : Option (List Token) :=
  if text.toList.all isAllowed then do
    let s ← Scan.run (text.length + 1) { cursor := { rest := text.toList } }
    return withKeys s.keys s.tokens []
  else none

end Token

end LiveForm.Yaml
