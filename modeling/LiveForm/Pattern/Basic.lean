import LiveForm.Unicode.Property

/-!
# Patterns and the texts that they match

A `Pattern` is a regular expression over characters. To run one on a text is to move marks: a mark
stands at each place in the text, before a character or at the end, that the pattern can have
reached. `Pattern.run` takes the marks before the pattern to those after it, so no way through the
pattern is tried twice and nothing is ever taken back. A text matches when marks at all of its
places leave any mark (`Pattern.isMatch`).
-/

namespace LiveForm

/-- What makes up a word at its two sides. -/
inductive WordEdge where
  | boundary
  | inside
  | start
  | stop
  | startHalf
  | stopHalf
deriving DecidableEq

/-- A condition on a place in the text. -/
inductive Look where
  | textStart
  | textEnd
  | lineStart (crlf : Bool)
  | lineEnd (crlf : Bool)
  | word (edge : WordEdge) (ascii : Bool)
deriving DecidableEq

/-- A regular expression. -/
inductive Pattern where
  | empty
  | literal (c : Char)
  | chars (set : Unicode.CharSet)
  | look (condition : Look)
  | group (inside : Pattern)
  | concat (first second : Pattern)
  | alternate (left right : Pattern)
  /-- At least `min` times, and at most `max` times if that is given. -/
  | repeated (body : Pattern) (min : Nat) (max : Option Nat)

/-- A place in a text: the character before it and the one after it. -/
structure Place where
  before : Option Char
  after : Option Char

namespace Place

/-- The places of a text, given the character before the first. -/
def listFrom (before : Option Char) : List Char → List Place
  | [] => [⟨before, none⟩]
  | c :: rest => ⟨before, some c⟩ :: listFrom (some c) rest

/-- The places of a text. -/
def ofText (cs : List Char) : List Place := listFrom none cs

end Place

/-- Letters, digits and the underscore of ASCII. -/
def Unicode.asciiWord : Unicode.CharSet := [(0x30, 0x39), (0x41, 0x5A), (0x5F, 0x5F), (0x61, 0x7A)]

namespace WordEdge

/-- Whether an edge lies between two sides of which it is known if they belong to words. -/
def holds : WordEdge → Bool → Bool → Bool
  | boundary, before, after => before != after
  | inside, before, after => before == after
  | start, before, after => !before && after
  | stop, before, after => before && !after
  | startHalf, before, _ => !before
  | stopHalf, _, after => !after

end WordEdge

namespace Look

/-- Whether a condition holds at a place. -/
def holds (condition : Look) (p : Place) : Bool :=
  match condition with
  | textStart => p.before.isNone
  | textEnd => p.after.isNone
  | lineStart false => p.before.isNone || p.before == some '\n'
  | lineStart true =>
    p.before.isNone || p.before == some '\n' || (p.before == some '\r' && p.after != some '\n')
  | lineEnd false => p.after.isNone || p.after == some '\n'
  | lineEnd true =>
    p.after.isNone || p.after == some '\r' || (p.after == some '\n' && p.before != some '\r')
  | word edge ascii =>
    let isWord := fun c : Option Char =>
      c.any fun c => (if ascii then Unicode.asciiWord else Unicode.word).contains c.toNat
    edge.holds (isWord p.before) (isWord p.after)

end Look

/-- A mark for each place of a text. -/
abbrev Marks := List Bool

namespace Marks

/-- There is a mark somewhere. -/
def any (marks : Marks) : Bool := List.any marks id

def union (a b : Marks) : Marks := List.zipWith (· || ·) a b

def minus (a b : Marks) : Marks := List.zipWith (fun x y => x && !y) a b

/-- The marks of the places at which a condition holds. -/
def stay (holds : Place → Bool) (places : List Place) (marks : Marks) : Marks :=
  List.zipWith (fun mark p => mark && holds p) marks places

/-- The marks after a character that satisfies a condition. -/
def step (holds : Char → Bool) (places : List Place) (marks : Marks) : Marks :=
  false :: (stay (fun p => p.after.any holds) places marks).dropLast

/-- Apply a step a number of times. Marks that stay the same are the result. -/
def iterate (step : Marks → Marks) : Nat → Marks → Marks
  | 0, marks => marks
  | n + 1, marks =>
    let next := step marks
    if next == marks then marks else iterate step n next

/-- Apply a step up to a number of times and gather the marks. A mark that was there before is not
followed again, so no more steps than places are needed. -/
def gather (step : Marks → Marks) : Nat → Marks → Marks → Marks
  | 0, seen, _ => seen
  | n + 1, seen, fresh =>
    if any fresh then
      let next := minus (step fresh) seen
      gather step n (union seen next) next
    else seen

end Marks

namespace Pattern

/-- The marks after the pattern, from those before it. -/
def run (places : List Place) : Pattern → Marks → Marks
  | empty, marks => marks
  | literal c, marks => Marks.step (· == c) places marks
  | chars set, marks => Marks.step (fun c => set.contains c.toNat) places marks
  | look condition, marks => Marks.stay condition.holds places marks
  | group inside, marks => run places inside marks
  | concat first second, marks => run places second (run places first marks)
  | alternate left right, marks => Marks.union (run places left marks) (run places right marks)
  | repeated body min max, marks =>
    let marks := Marks.iterate (fun m => run places body m) min marks
    let times :=
      match max with
      | some max => Nat.min (max - min) places.length
      | none => places.length
    Marks.gather (fun m => run places body m) times marks marks

/-- Whether a pattern matches somewhere in a text. -/
def isMatch (pattern : Pattern) (text : String) : Bool :=
  let places := Place.ofText text.toList
  (pattern.run places (places.map fun _ => true)).any

/-- The patterns one after the other. -/
def sequence : List Pattern → Pattern
  | [] => empty
  | [p] => p
  | p :: rest => concat p (sequence rest)

/-- One of the patterns. -/
def choice : List Pattern → Pattern
  | [] => empty
  | [p] => p
  | p :: rest => alternate p (choice rest)

end Pattern

end LiveForm
