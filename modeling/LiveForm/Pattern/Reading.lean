import LiveForm.Pattern.Basic
import LiveForm.Pattern.Names
import LiveForm.Text.Blank
import LiveForm.Text.Hex
import LiveForm.Unicode.Folding

/-!
# Patterns read from text

The reader goes through the text once. It keeps the flags that are set, which a group restores at
its end, and the names of the groups, which may not be repeated. A text that is no pattern gives
`none`: there is one reason for refusing as good as another here.

With the flag `u` taken away, sets are those of ASCII, and whatever could match a part of a
character is refused. With `x`, blanks and comments between the parts of a pattern are skipped.
A pattern nested deeper than `maxNesting` is refused.
-/

namespace LiveForm.Pattern

open Unicode (CharSet)

/-- The flags of a part of a pattern. -/
structure Flags where
  /-- Letters match without regard to their case. -/
  ignoreCase : Bool := false
  /-- `^` and `$` also match at the ends of lines. -/
  multiLine : Bool := false
  /-- `.` also matches the end of a line. -/
  dotAll : Bool := false
  /-- Repetitions take as little as they can, which changes no answer. -/
  swapGreed : Bool := false
  /-- Sets are those of Unicode. -/
  unicode : Bool := true
  /-- Lines may end in a carriage return too. -/
  crlf : Bool := false
  /-- Blanks and comments are skipped. -/
  verbose : Bool := false

/-- The flags after one is set or taken away. -/
def Flags.set (flags : Flags) (letter : Char) (on : Bool) : Option Flags :=
  match letter with
  | 'i' => some { flags with ignoreCase := on }
  | 'm' => some { flags with multiLine := on }
  | 's' => some { flags with dotAll := on }
  | 'U' => some { flags with swapGreed := on }
  | 'u' => some { flags with unicode := on }
  | 'R' => some { flags with crlf := on }
  | 'x' => some { flags with verbose := on }
  | _ => none

/-- Where the reader is. -/
structure Cursor where
  rest : List Char
  flags : Flags := {}
  names : List String := []

/-- A reader of a part of a pattern. -/
abbrev Reader := StateT Cursor Option

/-- The greatest number of groups, sets, repetitions and lists around and including one. -/
def maxNesting : Nat := 250

/-- The text after a comment. -/
def skipComment : List Char → List Char
  | [] => []
  | c :: rest => if c = '\n' then rest else skipComment rest

/-- The text after blanks and comments. The fuel is at least the number of characters. -/
def skipVerbose : Nat → List Char → List Char
  | 0, cs => cs
  | _ + 1, [] => []
  | fuel + 1, c :: rest =>
    if Text.blankChar c then skipVerbose fuel rest
    else if c = '#' then skipVerbose fuel (skipComment rest)
    else c :: rest

/-- The text after what the flags allow to skip. -/
def Cursor.skipped (s : Cursor) : List Char :=
  if s.flags.verbose then skipVerbose s.rest.length s.rest else s.rest

namespace Reader

/-- The character in front. -/
def peek? : Reader (Option Char) := do return (← get).rest.head?

/-- The character in front; it is an error if there is none. -/
def peek : Reader Char := do
  match (← get).rest with
  | c :: _ => return c
  | [] => failure

/-- Skip blanks and comments where the flags say so. -/
def skip : Reader Unit := modify fun s => { s with rest := s.skipped }

/-- Pass the character in front. -/
def advance : Reader Unit := modify fun s => { s with rest := s.rest.drop 1 }

/-- Pass the character in front, then blanks and comments. -/
def advanceSkip : Reader Unit := do advance; skip

/-- Pass a text in front, if it is there. -/
def accept (word : List Char) : Reader Bool := do
  let s ← get
  if word.isPrefixOf s.rest then
    set { s with rest := s.rest.drop word.length }
    return true
  else return false

/-- Pass one character, which has to be there. -/
def expect (c : Char) : Reader Unit := do
  if (← accept [c]) then return () else failure

def flags : Reader Flags := do return (← get).flags

/-- It is an error if a condition does not hold. -/
def require (condition : Bool) : Reader Unit := if condition then return () else failure

/-- The characters in front that satisfy a condition; after each, blanks and comments. The fuel is
at least the number of characters. -/
def takeSkipping (accepts : Char → Bool) : Nat → Reader (List Char)
  | 0 => return []
  | fuel + 1 => do
    match (← peek?) with
    | some c =>
      if accepts c then
        advanceSkip
        return c :: (← takeSkipping accepts fuel)
      else return []
    | none => return []

/-- The number of characters that are left. -/
def remaining : Reader Nat := do return (← get).rest.length

end Reader

open Reader

/-! ### Parts of a pattern -/

/-- A part of a pattern. -/
structure Part where
  pattern : Pattern
  /-- How deep it is nested. -/
  depth : Nat
  /-- It only sets flags and cannot be repeated. -/
  directive : Bool := false

namespace Part

/-- A part without parts. -/
def leaf (pattern : Pattern) : Part := ⟨pattern, 0, false⟩

/-- The greatest nesting of several parts. -/
def greatest (parts : List Part) : Nat := parts.foldl (fun n p => Nat.max n p.depth) 0

/-- Parts one after the other, given in reverse. -/
def sequence (parts : List Part) : Part :=
  ⟨.sequence (parts.reverse.map Part.pattern),
    if parts.length ≤ 1 then greatest parts else greatest parts + 1, false⟩

/-- Alternatives, given in reverse. -/
def choice (parts : List Part) : Part :=
  ⟨.choice (parts.reverse.map Part.pattern),
    if parts.length ≤ 1 then greatest parts else greatest parts + 1, false⟩

/-- A part that is repeated. -/
def repeated (p : Part) (min : Nat) (max : Option Nat) : Part :=
  ⟨.repeated p.pattern min max, p.depth + 1, false⟩

end Part

/-- A set that is being read: its ranges, how many parts it has, and how deep they are nested. -/
structure Members where
  ranges : List (Nat × Nat) := []
  count : Nat := 0
  deepest : Nat := 0

namespace Members

/-- One more part. -/
def push (m : Members) (ranges : List (Nat × Nat)) (depth : Nat) : Members :=
  ⟨ranges ++ m.ranges, m.count + 1, Nat.max m.deepest depth⟩

/-- How deep the set is nested. -/
def depth (m : Members) : Nat := if m.count ≤ 1 then m.deepest else m.deepest + 1

end Members

/-- An operation on two sets. -/
inductive SetOp where
  | inter
  | diff
  | symmDiff

/-- The result of an operation. -/
def SetOp.apply : SetOp → CharSet → CharSet → CharSet
  | inter => CharSet.inter
  | diff => CharSet.diff
  | symmDiff => CharSet.symmDiff

/-- Both cases of the letters of a set. -/
def foldSet (flags : Flags) (s : CharSet) : CharSet :=
  if !flags.ignoreCase then s
  else if flags.unicode then Unicode.closeUnderCase s
  else
    CharSet.join (s ++ s.flatMap fun (lo, hi) =>
      let capitals := (Nat.max lo 0x41 + 32, Nat.min hi 0x5A + 32)
      let smalls := (Nat.max lo 0x61 - 32, Nat.min hi 0x7A - 32)
      [capitals, smalls].filter fun r => r.1 ≤ r.2)

/-- A set after case and negation. Without Unicode, a negated set could match a part of a
character. -/
def finishSet (flags : Flags) (negated : Bool) (s : CharSet) : Option CharSet :=
  let s := foldSet flags s
  if !negated then some s
  else if flags.unicode then some s.complement
  else none

/-- What an escape stands for. -/
inductive Escaped where
  /-- A character. `byte` says that it was written as two digits of base sixteen. -/
  | char (c : Char) (byte : Bool)
  | set (s : CharSet)
  | look (condition : Look)

/-- The character of an escaped letter. -/
def controlChar? (c : Char) : Option Char :=
  match c with
  | 'a' => some '\x07'
  | 'f' => some '\x0c'
  | 't' => some '\t'
  | 'n' => some '\n'
  | 'r' => some '\r'
  | 'v' => some '\x0b'
  | _ => none

/-- The character with a number in digits of base sixteen. -/
def charOfHex (digits : List Char) : Reader Char := do
  let n := (Text.hexValue? digits).getD 0
  require (decide (n.isValidChar))
  return Char.ofNat n

/-- Digits of base sixteen, a number of them. Nothing is skipped after the last. -/
def fixedHex : Nat → Reader (List Char)
  | 0 => return []
  | n + 1 => do
    let c ← peek
    require (Text.hexDigit? c).isSome
    if n = 0 then advance else advanceSkip
    return c :: (← fixedHex n)

/-- The character of an escape by number. The letter was seen and is in front. -/
def hexEscape (letter : Char) : Reader Escaped := do
  advanceSkip
  if (← peek) = '\x7b' then
    advanceSkip
    let digits ← takeSkipping (fun c => (Text.hexDigit? c).isSome) (← remaining)
    expect '\x7d'
    skip
    require (!digits.isEmpty)
    return .char (← charOfHex digits) false
  else
    let digits ← fixedHex (if letter = 'x' then 2 else if letter = 'u' then 4 else 8)
    skip
    return .char (← charOfHex digits) (letter = 'x')

/-- A list cut at the first place where a word stands. -/
def cutAt? (word : List Char) : List Char → Option (List Char × List Char)
  | [] => none
  | c :: rest =>
    if word.isPrefixOf (c :: rest) then some ([], (c :: rest).drop word.length)
    else (cutAt? word rest).map fun (before, after) => (c :: before, after)

/-- The set of a name in braces. -/
def braced? (name : List Char) : Option CharSet :=
  match ((cutAt? ['!', '='] name).or (cutAt? [':'] name)).or (cutAt? ['='] name) with
  | some (property, value) =>
    Unicode.namedValue? (String.ofList property) (String.ofList value)
  | none => Unicode.named? (String.ofList name)

/-- The set of a named property. The letter was seen and is in front. -/
def namedSet (letter : Char) : Reader Escaped := do
  advanceSkip
  let c ← peek
  let found ←
    if c = '\x7b' then do
      advanceSkip
      let name ← takeSkipping (· ≠ '\x7d') (← remaining)
      expect '\x7d'
      pure (braced? name)
    else do
      require (c ≠ '\\')
      advanceSkip
      pure (Unicode.named? (String.ofList [c]))
  let flags ← flags
  require flags.unicode
  match found with
  | some s => return .set (← finishSet flags (letter = 'P') s)
  | none => failure

/-- The set of an escaped letter, in lower case. -/
def letterSet (flags : Flags) (letter : Char) : CharSet :=
  match letter, flags.unicode with
  | 'd', true => Unicode.decimalDigits
  | 'd', false => Unicode.asciiDigits
  | 's', true => Unicode.whiteSpace
  | 's', false => Unicode.asciiSpace
  | _, true => Unicode.word
  | _, false => Unicode.asciiWord

/-- The edge of a word that a text in braces names. What does not start like a name is left to be
read as a repetition. -/
def namedEdge : Reader (Option WordEdge) := do
  let start ← get
  let isLetter := fun c : Char => c.isAlpha || c = '-'
  advanceSkip
  if isLetter (← peek) then
    let name ← takeSkipping isLetter (← remaining)
    expect '\x7d'
    match String.ofList name with
    | "start" => return some .start
    | "end" => return some .stop
    | "start-half" => return some .startHalf
    | "end-half" => return some .stopHalf
    | _ => failure
  else
    set start
    return none

/-- The characters that stand for more than themselves somewhere in a pattern. -/
def metaChars : List Char := "\\.+*?()|[]\x7b\x7d^$#&-~".toList

/-- The characters that a backslash may precede without a meaning. -/
def isEscapable (c : Char) : Bool :=
  metaChars.contains c || (c.toNat < 0x80 && !c.isAlphanum && c ≠ '<' && c ≠ '>')

/-- An escape. The backslash is in front. -/
def escape : Reader Escaped := do
  advance
  let c ← peek
  let flags ← flags
  let edge := fun e : WordEdge => Escaped.look (.word e (!flags.unicode))
  match c with
  | 'x' | 'u' | 'U' => hexEscape c
  | 'p' | 'P' => namedSet c
  | 'd' | 's' | 'w' => advance; return .set (letterSet flags c)
  | 'D' | 'S' | 'W' =>
    advance
    return .set (← finishSet { flags with ignoreCase := false } true (letterSet flags c.toLower))
  | _ =>
    advance
    if isEscapable c then return .char c false
    match controlChar? c with
    | some control => return .char control false
    | none =>
      match c with
      | 'A' => return .look .textStart
      | 'z' => return .look .textEnd
      | 'B' => return edge .inside
      | '<' => return edge .start
      | '>' => return edge .stop
      | 'b' =>
        if (← peek?) = some '\x7b' then return edge ((← namedEdge).getD .boundary)
        else return edge .boundary
      | _ => failure

/-- A character in a pattern that matches itself. -/
def charPart (flags : Flags) (c : Char) (byte : Bool) : Option Part :=
  if !flags.unicode && byte && 0x7F < c.toNat then none
  else
    let alone := [(c.toNat, c.toNat)]
    let folded := foldSet flags alone
    some (.leaf (if folded == alone then .literal c else .chars folded))

/-- The part of an escape. -/
def escapePart : Reader Part := do
  match (← escape) with
  | .char c byte => charPart (← flags) c byte
  | .set s => return .leaf (.chars s)
  | .look condition => return .leaf (.look condition)

/-- The set of a dot. -/
def dotSet (flags : Flags) : Option CharSet :=
  if !flags.unicode then none
  else if flags.dotAll then some [(0, Unicode.lastCode)]
  else if flags.crlf then some (CharSet.complement [(0xA, 0xA), (0xD, 0xD)])
  else some (CharSet.complement [(0xA, 0xA)])

/-- A part that is a single character or an escape. -/
def primitive : Reader Part := do
  let c ← peek
  let flags ← flags
  match c with
  | '\\' => escapePart
  | '.' => advance; return .leaf (.chars (← dotSet flags))
  | '^' =>
    advance
    return .leaf (.look (if flags.multiLine then .lineStart flags.crlf else .textStart))
  | '$' => advance; return .leaf (.look (if flags.multiLine then .lineEnd flags.crlf else .textEnd))
  | c => advance; charPart flags c false

/-! ### Repetitions -/

/-- A number of 32 bits without a sign. -/
def decimal : Reader (Option Nat) := do
  modify fun s => { s with rest := s.rest.dropWhile Text.blankChar }
  let digits ← takeSkipping Char.isDigit (← remaining)
  let _ ← takeSkipping Text.blankChar (← remaining)
  if digits.isEmpty then return none
  let n := digits.foldl (fun n c => 10 * n + (c.toNat - '0'.toNat)) 0
  require (n < UInt32.size)
  return some n

/-- The bounds of a repetition. The opening brace is in front. -/
def bounds : Reader (Nat × Option Nat) := do
  advanceSkip
  let _ ← peek
  let min ← decimal
  if (← peek) = ',' then
    advanceSkip
    if (← peek) = '\x7d' then
      advanceSkip
      return ((← min), none)
    else
      let min ← min
      let max ← decimal
      let max ← max
      expect '\x7d'
      skip
      require (min ≤ max)
      return (min, some max)
  else
    let min ← min
    expect '\x7d'
    skip
    return (min, some min)

/-- The part in front of a repetition, and the parts before it. -/
def repeatable (parts : List Part) : Reader (Part × List Part) :=
  match parts with
  | p :: before => if p.directive then failure else return (p, before)
  | [] => failure

/-- Pass the mark of a repetition that takes as little as it can. -/
def lazyMark : Reader Unit := do let _ ← accept ['?']

/-! ### Groups -/

/-- Flags up to a colon or a closing bracket, which is left. `on` is false after a minus; the
letters before, and whether the last was a minus. -/
def readFlags (flags : Flags) (seen : List Char) (on dangling : Bool) :
    List Char → Option (Flags × Bool × List Char)
  | [] => none
  | c :: rest =>
    if c = ':' ∨ c = ')' then
      if dangling then none else some (flags, seen.isEmpty, c :: rest)
    else if seen.contains c then none
    else if c = '-' then readFlags flags (c :: seen) false true rest
    else
      match flags.set c on with
      | some flags => readFlags flags (c :: seen) on false rest
      | none => none

/-- Whether a character can stand in the name of a group. -/
def isNameChar (first : Bool) (c : Char) : Bool :=
  c = '_' || Unicode.alphabetic.contains c.toNat ||
    (!first &&
      (c = '.' || c = '[' || c = ']' || ["Nd", "Nl", "No"].contains (Unicode.categoryOf c)))

/-- The name of a group and the bracket that closes it. -/
def groupName : Reader Unit := do
  let s ← get
  let name := s.rest.takeWhile (· ≠ '>')
  require (!name.isEmpty && isNameChar true (name.headD ' ') && name.all (isNameChar false))
  require (!s.names.contains (String.ofList name))
  set { s with rest := s.rest.drop name.length, names := String.ofList name :: s.names }
  expect '>'

/-- What a group starts with. -/
inductive Opening where
  | capture
  /-- A group that sets flags for itself. -/
  | flagged (flags : Flags)
  /-- Flags for what follows in the group around. -/
  | directive (flags : Flags)

/-- What stands after an opening bracket, up to the inside of the group. -/
def opening : Reader Opening := do
  skip
  let ahead := (← get).rest
  let lookaround := [['?', '='], ['?', '!'], ['?', '<', '='], ['?', '<', '!']]
  require (!(lookaround.any fun w => w.isPrefixOf ahead))
  if (← accept ['?', 'P', '<']) then
    groupName
    return .capture
  else if (← accept ['?', '<']) then
    groupName
    return .capture
  else if (← accept ['?']) then
    let s ← get
    let (flags, noFlags, rest) ← readFlags s.flags [] true false s.rest
    set { s with rest := rest }
    if (← accept [')']) then
      require (!noFlags)
      return .directive flags
    else
      expect ':'
      return .flagged flags
  else return .capture

/-! ### Sets -/

/-- A set with a name between brackets and colons. Nothing is passed if there is none. -/
def bracketedName : Reader (Option (Bool × CharSet)) := do
  let s ← get
  match s.rest with
  | '[' :: ':' :: rest =>
    let (negated, rest) :=
      match rest with
      | '^' :: rest => (true, rest)
      | rest => (false, rest)
    match cutAt? [':'] rest with
    | some (name, ']' :: rest) =>
      match Unicode.bracketed? (String.ofList name) with
      | some named =>
        set { s with rest := rest }
        return some (negated, named)
      | none => return none
    | _ => return none
  | _ => return none

/-- A character of a set, which has to be of ASCII without Unicode. -/
def memberChar (flags : Flags) (c : Char) : Reader Nat := do
  require (flags.unicode || c.toNat < 0x80)
  return c.toNat

/-- One end of a range, or a set. -/
def setItem : Reader Escaped := do
  let c ← peek
  if c = '\\' then escape
  else
    advance
    return .char c false

/-- The character after the one in front, blanks and comments skipped. -/
def peekSecond? : Reader (Option Char) := do
  let s ← get
  return ({ s with rest := s.rest.drop 1 } : Cursor).skipped.head?

/-- A character, a range or a set inside brackets. -/
def setRange : Reader (List (Nat × Nat)) := do
  let first ← setItem
  skip
  let c ← peek
  let second ← peekSecond?
  let flags ← flags
  if c ≠ '-' || second == some ']' || second == some '-' then
    match first with
    | .char c _ =>
      let n ← memberChar flags c
      return [(n, n)]
    | .set s => return s
    | .look _ => failure
  else
    advanceSkip
    let last ← do let _ ← peek; setItem
    match first, last with
    | .char a _, .char b _ =>
      let a ← memberChar flags a
      let b ← memberChar flags b
      require (a ≤ b)
      return [(a, b)]
    | _, _ => failure

/-- Hyphens at the start of a set are members. -/
def leadingHyphens : Nat → Members → Reader Members
  | 0, m => return m
  | fuel + 1, m => do
    if (← peek) = '-' then
      advanceSkip
      leadingHyphens fuel (m.push [(0x2D, 0x2D)] 0)
    else return m

/-- What stands at the start of a set: whether it is negated, and its first members. The opening
bracket is in front. -/
def setStart : Reader (Bool × Members) := do
  advanceSkip
  let negated := (← peek) = '^'
  if negated then advanceSkip
  let m ← leadingHyphens (← remaining) {}
  if m.count = 0 && (← peek) = ']' then
    advanceSkip
    return (negated, m.push [(0x5D, 0x5D)] 0)
  else return (negated, m)

/-- A set that waits for the right side of an operation. -/
structure Pending where
  op : SetOp
  left : CharSet
  depth : Nat

/-- The set of the members, after the operation that waits for it. -/
def settle (flags : Flags) (pending : Option Pending) (m : Members) : CharSet × Nat :=
  let right := CharSet.join m.ranges
  match pending with
  | none => (right, m.depth)
  | some p =>
    (p.op.apply (foldSet flags p.left) (foldSet flags right), Nat.max p.depth m.depth + 1)

mutual

/-- A set between brackets. The opening bracket is in front. -/
def bracketSet (fuel : Nat) : Reader (CharSet × Nat) :=
  match fuel with
  | 0 => failure
  | fuel + 1 => do
    let (negated, m) ← setStart
    let (s, depth) ← setMembers fuel none m
    return ((← finishSet (← flags) negated s), depth + 1)

/-- The members of a set up to its closing bracket. -/
def setMembers (fuel : Nat) (pending : Option Pending) (m : Members) : Reader (CharSet × Nat) :=
  match fuel with
  | 0 => failure
  | fuel + 1 => do
    skip
    let flags ← flags
    let operate := fun (op : SetOp) (word : List Char) => do
      let _ ← accept word
      let (left, depth) := settle flags pending m
      setMembers fuel (some ⟨op, left, depth⟩) {}
    match (← get).rest with
    | [] => failure
    | '[' :: _ =>
      match (← bracketedName) with
      | some (negated, s) => setMembers fuel pending (m.push (← finishSet flags negated s) 0)
      | none =>
        let (s, depth) ← bracketSet fuel
        setMembers fuel pending (m.push s depth)
    | ']' :: _ =>
      advance
      return settle flags pending m
    | '&' :: '&' :: _ => operate .inter ['&', '&']
    | '-' :: '-' :: _ => operate .diff ['-', '-']
    | '~' :: '~' :: _ => operate .symmDiff ['~', '~']
    | _ => setMembers fuel pending (m.push (← setRange) 0)

end

/-! ### Patterns -/

mutual

/-- The part that starts with an opening bracket, which was passed. -/
def groupPart (fuel : Nat) : Reader Part :=
  match fuel with
  | 0 => failure
  | fuel + 1 => do
    let outer ← flags
    let inside := fun (flags : Flags) (wrap : Pattern → Pattern) => do
      modify fun s => { s with flags := flags }
      let p ← alternatives fuel true [] []
      modify fun s => { s with flags := outer }
      return ⟨wrap p.pattern, p.depth + 1, false⟩
    match (← opening) with
    | .capture => inside outer Pattern.group
    | .flagged flags => inside flags id
    | .directive flags =>
      modify fun s => { s with flags := flags }
      return ⟨.empty, 0, true⟩

/-- Alternatives up to the end of the group or of the text. The alternatives before and the parts
of the current one are in reverse. -/
def alternatives (fuel : Nat) (inGroup : Bool) (branches parts : List Part) : Reader Part :=
  match fuel with
  | 0 => failure
  | fuel + 1 => do
    skip
    let done := Part.choice (Part.sequence parts :: branches)
    let again := fun (min : Nat) (max : Option Nat) => do
      let (p, before) ← repeatable parts
      advance
      lazyMark
      alternatives fuel inGroup branches (p.repeated min max :: before)
    match (← peek?) with
    | none => if inGroup then failure else return done
    | some ')' => if inGroup then do advance; return done else failure
    | some '|' =>
      advance
      alternatives fuel inGroup (Part.sequence parts :: branches) []
    | some '(' =>
      advance
      let p ← groupPart fuel
      alternatives fuel inGroup branches (p :: parts)
    | some '[' =>
      let (s, depth) ← bracketSet fuel
      alternatives fuel inGroup branches (⟨.chars s, depth, false⟩ :: parts)
    | some '?' => again 0 (some 1)
    | some '*' => again 0 none
    | some '+' => again 1 none
    | some '\x7b' =>
      let (p, before) ← repeatable parts
      let (min, max) ← bounds
      lazyMark
      alternatives fuel inGroup branches (p.repeated min max :: before)
    | some _ =>
      let p ← primitive
      alternatives fuel inGroup branches (p :: parts)

end

/-- The pattern of a text, whatever its size. -/
def ofText? (source : String) : Option Pattern := do
  let cs := source.toList
  let (part, _) ← (alternatives (2 * cs.length + 2) false [] []).run { rest := cs }
  if part.depth ≤ maxNesting then return part.pattern else none

end LiveForm.Pattern
