import LiveForm.Pattern.Basic

/-!
# The size of a pattern

A pattern is refused when the automaton for it would be too large. The automaton reads bytes, so a
set of characters beyond ASCII is a tree of byte ranges: `byteRanges` splits a range of code points
into sequences of byte ranges, and sequences that start alike share states. There are two automata,
one that reads forward and notes where groups begin and end, and one that reads backward; `states`
counts the states of the larger one, and `Pattern.isSmall` compares the bytes that they take with
`sizeLimit`.
-/

namespace LiveForm

namespace Unicode

/-- The last code point that is written with a number of bytes. -/
def lastOfLength : Nat → Nat
  | 1 => 0x7F
  | 2 => 0x7FF
  | 3 => 0xFFFF
  | _ => lastCode

/-- The bytes of a code point that is written with a number of bytes. -/
def bytesOf (length n : Nat) : List Nat :=
  match length with
  | 1 => [n]
  | 2 => [0xC0 + n / 64, 0x80 + n % 64]
  | 3 => [0xE0 + n / 4096, 0x80 + n / 64 % 64, 0x80 + n % 64]
  | _ => [0xF0 + n / 262144, 0x80 + n / 4096 % 64, 0x80 + n / 64 % 64, 0x80 + n % 64]

/-- Split a range so that in each part the last bytes run through all values or the bytes before
them are fixed. `unit` is the number of code points that share all bytes but the last ones. -/
def alignedParts : Nat → Nat → Nat → Nat → List (Nat × Nat)
  | 0, _, lo, hi => [(lo, hi)]
  | levels + 1, unit, lo, hi =>
    let first := lo / unit
    let last := hi / unit
    if first == last then alignedParts levels (unit / 64) lo hi
    else
      let start := if lo % unit == 0 then first else first + 1
      let stop := if hi % unit == unit - 1 then last + 1 else last
      (if lo % unit == 0 then []
        else alignedParts levels (unit / 64) lo (first * unit + unit - 1)) ++
        (if start < stop then [(start * unit, stop * unit - 1)] else []) ++
        (if hi % unit == unit - 1 then [] else alignedParts levels (unit / 64) (last * unit) hi)

/-- The sequences of byte ranges for the code points of a range that are written with a number of
bytes. -/
def byteRangesOfLength (length lo hi : Nat) : List (List (Nat × Nat)) :=
  let lo := Nat.max lo (if length = 1 then 0 else lastOfLength (length - 1) + 1)
  let hi := Nat.min hi (lastOfLength length)
  if hi < lo then []
  else
    (alignedParts (length - 1) (Nat.pow 64 (length - 1)) lo hi).map fun (a, b) =>
      (bytesOf length a).zip (bytesOf length b)

/-- The sequences of byte ranges for a range of code points. Half a surrogate pair is none. -/
def byteRanges (lo hi : Nat) : List (List (Nat × Nat)) :=
  [(lo, Nat.min hi 0xD7FF), (Nat.max lo 0xE000, hi)].flatMap fun (lo, hi) =>
    if hi < lo then [] else [1, 2, 3, 4].flatMap fun length => byteRangesOfLength length lo hi

/-- How many ranges two sequences start with in common. -/
def commonStart : List (Nat × Nat) → List (Nat × Nat) → Nat
  | a :: as, b :: bs => if a == b then commonStart as bs + 1 else 0
  | _, _ => 0

/-- The ranges of sequences, those that a sequence shares with the one before it counted once. -/
def sharedRanges (before : List (Nat × Nat)) : List (List (Nat × Nat)) → Nat
  | [] => 0
  | s :: rest => s.length - commonStart before s + sharedRanges s rest

end Unicode

namespace Pattern

/-- The bytes that one state takes. -/
def stateBytes : Nat := 32

/-- The greatest number of bytes that the states may take. -/
def sizeLimit : Nat := 10 <<< 20

/-- The bytes for a set of characters. -/
def setBytes (set : Unicode.CharSet) : Nat :=
  if set.isAscii then 2 * stateBytes + 8 * set.length
  else
    let sequences := set.flatMap fun (lo, hi) => Unicode.byteRanges lo hi
    stateBytes * (Unicode.sharedRanges [] sequences + 2) + 4 * sequences.length

/-- A pattern that does not match the empty text. -/
def consumes : Pattern → Bool
  | empty | look _ => false
  | literal _ | chars _ => true
  | group inside => inside.consumes
  | concat first second => first.consumes || second.consumes
  | alternate left right => left.consumes && right.consumes
  | repeated body min _ => 0 < min && body.consumes

/-- The bytes for a pattern. `groups` says whether the ends of groups are noted. -/
def bytes (groups : Bool) : Pattern → Nat
  | empty | look _ => stateBytes
  | literal c => stateBytes * c.utf8Size
  | chars set => setBytes set
  | group inside => inside.bytes groups + (if groups then 2 * stateBytes else 0)
  | concat first second => first.bytes groups + second.bytes groups
  | alternate left right => left.bytes groups + right.bytes groups + 2 * stateBytes
  | repeated body min max =>
    let one := body.bytes groups
    match max with
    | some max => min * one + (max - min) * (one + stateBytes + 8) + stateBytes
    | none =>
      if min = 0 then one + (if body.consumes then 1 else 3) * (stateBytes + 8)
      else min * one + stateBytes + 8

/-- The automata for a pattern are not too large. -/
def isSmall (p : Pattern) : Bool := p.bytes true ≤ sizeLimit && p.bytes false ≤ sizeLimit

end Pattern

end LiveForm
