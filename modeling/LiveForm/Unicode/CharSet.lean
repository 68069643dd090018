/-!
# Sets of code points

A `CharSet` is a list of ranges of code points, both ends included, ascending and apart. `join`
brings any list of ranges into this form. The tables of the Unicode standard are kept as texts of
runs; `readRuns` and `readGaps` read the two kinds.
-/

namespace LiveForm.Unicode

/-- Ranges of code points, ascending and apart. -/
abbrev CharSet := List (Nat × Nat)

/-- The last code point. -/
def lastCode : Nat := 0x10FFFF

namespace CharSet

/-- Whether a code point is in the set. -/
def contains (s : CharSet) (n : Nat) : Bool :=
  s.any fun (lo, hi) => lo ≤ n && n ≤ hi

/-- Ascending ranges after one, with those that touch or overlap made one. -/
def coalesceAfter (lo hi : Nat) : List (Nat × Nat) → CharSet
  | [] => [(lo, hi)]
  | (lo', hi') :: rest =>
    if lo' ≤ hi + 1 then coalesceAfter lo (max hi hi') rest
    else (lo, hi) :: coalesceAfter lo' hi' rest

/-- Ascending ranges, with those that touch or overlap made one. -/
def coalesce : List (Nat × Nat) → CharSet
  | [] => []
  | (lo, hi) :: rest => coalesceAfter lo hi rest

/-- The set of any ranges. -/
def join (ranges : List (Nat × Nat)) : CharSet :=
  coalesce (ranges.mergeSort fun a b => a.1 ≤ b.1)

/-- The code points from a first one on that are not in the set. -/
def complementFrom (start : Nat) : CharSet → CharSet
  | [] => if start ≤ lastCode then [(start, lastCode)] else []
  | (lo, hi) :: rest =>
    if start < lo then (start, lo - 1) :: complementFrom (hi + 1) rest
    else complementFrom (hi + 1) rest

/-- The code points that are not in the set. -/
def complement (s : CharSet) : CharSet := complementFrom 0 s

def union (s t : CharSet) : CharSet := join (s ++ t)

def inter (s t : CharSet) : CharSet := complement (union (complement s) (complement t))

def diff (s t : CharSet) : CharSet := inter s (complement t)

def symmDiff (s t : CharSet) : CharSet := union (diff s t) (diff t s)

/-- No member is beyond ASCII. -/
def isAscii (s : CharSet) : Bool := s.all fun (_, hi) => hi < 0x80

end CharSet

/-- The numbers of a text, with one blank between. -/
def readNumbers (s : String) : List Nat :=
  let (numbers, last, seen) := s.toList.foldl
    (fun (numbers, n, seen) c =>
      if c.isDigit then (numbers, 10 * n + (c.toNat - '0'.toNat), true)
      else if seen then (n :: numbers, 0, false)
      else (numbers, 0, false))
    ([], 0, false)
  (if seen then last :: numbers else numbers).reverse

/-- The ranges of a text of alternating gaps and lengths. -/
def readGaps (s : String) : CharSet :=
  go 0 (readNumbers s)
where
  go (start : Nat) : List Nat → CharSet
    | gap :: length :: rest =>
      (start + gap, start + gap + length - 1) :: go (start + gap + length) rest
    | _ => []

/-- The first and last code point and the name of each run of a text of lengths and names. -/
def readRuns (s : String) : List (Nat × Nat × String) :=
  let (runs, start, n, name) := s.toList.foldl
    (fun (runs, start, n, name) c =>
      if c.isDigit then
        if name.isEmpty then (runs, start, 10 * n + (c.toNat - '0'.toNat), name)
        else
          ((start, start + n - 1, String.ofList name.reverse) :: runs, start + n,
            c.toNat - '0'.toNat, [])
      else (runs, start, n, c :: name))
    (([] : List (Nat × Nat × String)), 0, 0, ([] : List Char))
  (if name.isEmpty then runs
    else (start, start + n - 1, String.ofList name.reverse) :: runs).reverse

end LiveForm.Unicode
