import LiveForm.Json.Basic
import LiveForm.Number.Reading
import LiveForm.Text.Hex

/-!
# Reading the text of a value

A `Draft` is a text of a value as far as it could be read. It keeps the members of objects in the
order of the text, repeated keys included, and it marks the places where the reading failed instead
of failing as a whole: a reader of a draft that stops at the first thing it dislikes meets the
things in the order of the text, a fault of the text among them.

Some texts are well formed but stand for no value: a number beyond the finite ones, half a
surrogate pair, and what is nested deeper than 127 arrays and objects. Such parts may be skipped
and not used; `Draft.intact` says whether a draft can be skipped.

`Json.ofText?` gives the value of a text that can be used as a whole.

An integer of 64 bits is read as it is. Any other number has the digits that fit into a word of 64
bits, scaled by a power of ten (`Binary64.ofParts`), and is not always the nearest one.
-/

namespace LiveForm

/-- How an array or an object ended. -/
inductive Ending where
  /-- With its closing bracket. -/
  | closed
  /-- At a fault of the text. -/
  | broken
  /-- With its closing bracket, but nested too deep to be used. -/
  | tooDeep
deriving DecidableEq

/-- A text of a value, as far as it could be read. -/
inductive Draft where
  | null
  | bool (value : Bool)
  | num (value : Number)
  | str (value : String)
  | arr (items : List Draft) (ending : Ending)
  | obj (members : List (Option String × Draft)) (ending : Ending)
  /-- Well formed, but no value: it may be skipped and not used. -/
  | unusable
  /-- A fault of the text. -/
  | broken

namespace Draft

instance : Inhabited Draft := ⟨.broken⟩

/-- There is no fault inside, so what follows the draft could be read. -/
def intact : Draft → Bool
  | .arr _ ending | .obj _ ending => ending ≠ .broken
  | .broken => false
  | _ => true

/-- The greatest number of arrays and objects around and including one that can be used. -/
def maxNesting : Nat := 127

/-- The blanks between tokens. -/
def isSpace (c : Char) : Bool := c = ' ' || c = '\n' || c = '\t' || c = '\r'

def skipSpace (cs : List Char) : List Char := cs.dropWhile isSpace

/-- The character of a one-letter escape. -/
def unescape? (c : Char) : Option Char :=
  match c with
  | '"' => some '"'
  | '\\' => some '\\'
  | '/' => some '/'
  | 'b' => some '\x08'
  | 'f' => some '\x0c'
  | 'n' => some '\n'
  | 'r' => some '\r'
  | 't' => some '\t'
  | _ => none

/-- A unit of UTF-16 that starts a pair. -/
def isHighSurrogate (n : Nat) : Bool := 0xD800 ≤ n && n < 0xDC00

/-- A unit of UTF-16 that ends a pair. -/
def isLowSurrogate (n : Nat) : Bool := 0xDC00 ≤ n && n < 0xE000

/-- What was read of a string after its opening quote. -/
inductive StringDraft where
  | text (value : List Char) (rest : List Char)
  /-- Closed, but with half a surrogate pair inside. -/
  | unusable (rest : List Char)
  | broken

/-- One more character in front. -/
def StringDraft.push (c : Char) : StringDraft → StringDraft
  | .text value rest => .text (c :: value) rest
  | other => other

/-- Half a surrogate pair in front. -/
def StringDraft.spoil : StringDraft → StringDraft
  | .text _ rest => .unusable rest
  | other => other

/-- The character of a surrogate pair. -/
def ofPair (high low : Nat) : Char :=
  Char.ofNat (0x10000 + (high - 0xD800) * 0x400 + (low - 0xDC00))

/-- The rest of a string after its opening quote. `high` is the first half of a surrogate pair, if
that is what was read last. -/
def readString (high : Option Nat) : List Char → StringDraft
  | [] => .broken
  | '"' :: rest => settle high (.text [] rest)
  | '\\' :: 'u' :: a :: b :: c :: d :: rest =>
    match Text.hexValue? [a, b, c, d] with
    | none => .broken
    | some n =>
      if isHighSurrogate n then settle high (readString (some n) rest)
      else if isLowSurrogate n then
        match high with
        | some h => (readString none rest).push (ofPair h n)
        | none => (readString none rest).spoil
      else settle high ((readString none rest).push (Char.ofNat n))
  | '\\' :: c :: rest =>
    match unescape? c with
    | some c => settle high ((readString none rest).push c)
    | none => .broken
  | c :: rest => if c.toNat < 0x20 then .broken else settle high ((readString none rest).push c)
where
  /-- A first half that no second half follows spoils the string. -/
  settle (high : Option Nat) (d : StringDraft) : StringDraft :=
    if high.isSome then d.spoil else d

/-- The draft of a whole number or of one with a point or an exponent. A whole number with an
exponent left had more digits than fit. -/
def ofToken (negative : Bool) (d : Decimal) (whole : Bool) : Draft :=
  let n : Int := if negative then -d.digits else d.digits
  let plain := whole && d.exponent == 0 && !(negative && d.digits == 0)
  match if plain then Number.ofInt? n else none with
  | some n => .num n
  | none =>
    match Number.ofBinary64? (Binary64.ofParts negative d) with
    | some n => .num n
    | none => .unusable

/-- A number without its sign: no zero in front of other digits, a digit on both sides of a point,
and a digit in an exponent. -/
def readNumber (negative : Bool) (cs : List Char) : Draft × List Char :=
  let (whole, rest) := Text.spanDigits cs
  if whole.isEmpty || (whole.length != 1 && whole.head? == some '0') then (.broken, rest)
  else
    let (fraction, afterFraction, hasFraction) :=
      match rest with
      | '.' :: rest => ((Text.spanDigits rest).1, (Text.spanDigits rest).2, true)
      | _ => ([], rest, false)
    if hasFraction && fraction.isEmpty then (.broken, afterFraction)
    else
      match afterFraction with
      | 'e' :: _ | 'E' :: _ =>
        match Text.exponent? afterFraction with
        | some (e, rest) => (ofToken negative (.ofWord whole fraction e) false, rest)
        | none => (.broken, afterFraction)
      | _ => (ofToken negative (.ofWord whole fraction 0) (!hasFraction), afterFraction)

/-- The draft after a word whose first letter was seen. -/
def readWord (letters : List Char) (d : Draft) (cs : List Char) : Draft × List Char :=
  if letters.isPrefixOf cs then (d, cs.drop letters.length) else (.broken, cs)

/-- An array that was closed at a level of nesting. It keeps its items only if it can be used. -/
def makeArray (level : Nat) (items : List Draft) : Draft :=
  if level ≤ maxNesting then .arr items .closed else .arr [] .tooDeep

/-- An array that ended at a fault of the text. -/
def brokenArray (level : Nat) (items : List Draft) : Draft :=
  .arr (if level ≤ maxNesting then items else []) .broken

/-- An object that was closed at a level of nesting. -/
def makeObject (level : Nat) (members : List (Option String × Draft)) : Draft :=
  if level ≤ maxNesting then .obj members .closed else .obj [] .tooDeep

/-- An object that ended at a fault of the text. -/
def brokenObject (level : Nat) (members : List (Option String × Draft)) : Draft :=
  .obj (if level ≤ maxNesting then members else []) .broken

mutual

/-- The value in front, and what follows it. `level` is the number of arrays and objects around.
The fuel is at least the number of characters. -/
def readValue (fuel level : Nat) (cs : List Char) : Draft × List Char :=
  match fuel with
  | 0 => (.broken, cs)
  | fuel + 1 =>
    match skipSpace cs with
    | [] => (.broken, [])
    | c :: rest =>
      match c with
      | 'n' => readWord ['u', 'l', 'l'] .null rest
      | 't' => readWord ['r', 'u', 'e'] (.bool true) rest
      | 'f' => readWord ['a', 'l', 's', 'e'] (.bool false) rest
      | '"' =>
        match readString none rest with
        | .text value rest => (.str (String.ofList value), rest)
        | .unusable rest => (.unusable, rest)
        | .broken => (.broken, rest)
      | '[' =>
        match skipSpace rest with
        | ']' :: rest => (makeArray (level + 1) [], rest)
        | _ => readItems fuel (level + 1) [] rest
      | '\x7b' =>
        match skipSpace rest with
        | '\x7d' :: rest => (makeObject (level + 1) [], rest)
        | _ => readMembers fuel (level + 1) [] rest
      | '-' => readNumber true rest
      | c => if c.isDigit then readNumber false (c :: rest) else (.broken, rest)

/-- The items of an array that has at least one more. `items` are those before, in reverse. -/
def readItems (fuel level : Nat) (items : List Draft) (cs : List Char) : Draft × List Char :=
  match fuel with
  | 0 => (.broken, cs)
  | fuel + 1 =>
    let (item, rest) := readValue fuel level cs
    let items := item :: items
    if item.intact then
      match skipSpace rest with
      | ',' :: rest =>
        match skipSpace rest with
        | ']' :: _ => (brokenArray level items.reverse, [])
        | _ => readItems fuel level items rest
      | ']' :: rest => (makeArray level items.reverse, rest)
      | _ => (brokenArray level items.reverse, [])
    else (brokenArray level items.reverse, [])

/-- The members of an object that has at least one more. `members` are those before, in reverse. -/
def readMembers (fuel level : Nat) (members : List (Option String × Draft)) (cs : List Char) :
    Draft × List Char :=
  match fuel with
  | 0 => (.broken, cs)
  | fuel + 1 =>
    match skipSpace cs with
    | '"' :: rest =>
      match readString none rest with
      | .text key rest => readMember fuel level members (some (String.ofList key)) rest
      | .unusable rest => readMember fuel level members none rest
      | .broken => (brokenObject level members.reverse, [])
    | _ => (brokenObject level members.reverse, [])

/-- The value of a member whose key was read, and the members after it. -/
def readMember (fuel level : Nat) (members : List (Option String × Draft)) (key : Option String)
    (cs : List Char) : Draft × List Char :=
  match fuel with
  | 0 => (.broken, cs)
  | fuel + 1 =>
    match skipSpace cs with
    | ':' :: rest =>
      let (value, rest) := readValue fuel level rest
      let members := (key, value) :: members
      if value.intact then
        match skipSpace rest with
        | ',' :: rest => readMembers fuel level members rest
        | '\x7d' :: rest => (makeObject level members.reverse, rest)
        | _ => (brokenObject level members.reverse, [])
      else (brokenObject level members.reverse, [])
    | _ => (brokenObject level ((key, .broken) :: members).reverse, [])

end

/-- The draft of the value in front of a text, and whether nothing but blanks follows it. -/
def ofText (s : String) : Draft × Bool :=
  let cs := s.toList
  let (d, rest) := readValue (2 * cs.length + 2) 0 cs
  (d, (skipSpace rest).isEmpty)

mutual

/-- The value of a draft that can be used as a whole. The last of several members with one key
wins. -/
def value? : Draft → Option Json
  | .null => some .null
  | .bool b => some (.bool b)
  | .num n => some (.num n)
  | .str s => some (.str s)
  | .arr items .closed => (itemValues? items).map .arr
  | .obj members .closed => (memberValues? members).map .ofMembers
  | _ => none

/-- The values of the items. -/
def itemValues? : List Draft → Option (List Json)
  | [] => some []
  | d :: rest => d.value?.bind fun v => (itemValues? rest).map (v :: ·)

/-- The values of the members. -/
def memberValues? : List (Option String × Draft) → Option (List (String × Json))
  | [] => some []
  | (some key, d) :: rest => d.value?.bind fun v => (memberValues? rest).map ((key, v) :: ·)
  | (none, _) :: _ => none

end

mutual

/-- The draft of a value. -/
def ofJson : Json → Draft
  | .null => .null
  | .bool b => .bool b
  | .num n => .num n
  | .str s => .str s
  | .arr items => .arr (ofItems items) .closed
  | .obj members => .obj (ofMembers members) .closed

/-- The drafts of the items. -/
def ofItems : List Json → List Draft
  | [] => []
  | v :: rest => ofJson v :: ofItems rest

/-- The drafts of the members. -/
def ofMembers : List (String × Json) → List (Option String × Draft)
  | [] => []
  | (key, v) :: rest => (some key, ofJson v) :: ofMembers rest

end

end Draft

/-- The value that a text stands for. -/
def Json.ofText? (s : String) : Option Json :=
  let (d, ended) := Draft.ofText s
  if ended then d.value? else none

end LiveForm
