import LiveForm.Number.Binary64

/-!
# Decimal numbers and the numbers nearest to them

A `Decimal` is a natural number times a power of ten. `Binary64.ofDecimal` rounds it to the nearest
`Binary64`. In the other direction `Binary64.shortest` gives the decimal with the fewest digits
that reads back as the same number; of two such decimals it takes the nearer one, and `Tie` decides
between two equally near ones.

`Binary64.ofParts` is a quicker way from a decimal to a number: it rounds the digits, and multiplies
or divides what it has by a power of ten, which it rounds again. It may miss the nearest number.
-/

namespace LiveForm

/-- `digits * 10 ^ exponent`. -/
structure Decimal where
  digits : Nat
  exponent : Int
deriving DecidableEq, Repr

/-- Which of two equally near decimals is taken. -/
inductive Tie where
  | upper
  | even
deriving DecidableEq

namespace Decimal

/-- The value as numerator and denominator. -/
def ratio (d : Decimal) : Nat × Nat :=
  (d.digits * Nat.pow 10 d.exponent.toNat, Nat.pow 10 (-d.exponent).toNat)

/-- The number of decimal digits of a natural number; zero has one. -/
def length (n : Nat) : Nat := (Nat.toDigits 10 n).length

/-- The decimal without the zeros at the end of its digits. -/
def strip (d : Decimal) : Decimal :=
  go (length d.digits) d
where
  go : Nat → Decimal → Decimal
    | 0, d => d
    | fuel + 1, d =>
      if d.digits != 0 && d.digits % 10 == 0 then go fuel ⟨d.digits / 10, d.exponent + 1⟩ else d

end Decimal

namespace Binary64

/-- The number nearest to a decimal, with a sign. Every decimal from `10 ^ 309` on is infinite
here, and one below `10 ^ -324` is nearest to zero; neither needs its power of ten. -/
def ofDecimal (negative : Bool) (d : Decimal) : Binary64 :=
  let top : Int := d.exponent + Decimal.length d.digits
  if d.digits == 0 || top < -323 then ofMagnitude negative 0
  else if 309 < top then infinity negative
  else ofRatio negative d.ratio.1 d.ratio.2

/-- The greatest exponent of a power of ten that is finite. -/
def maxPower : Nat := 308

/-- The number nearest to a power of ten. -/
def powerOfTen (n : Nat) : Binary64 := ofRatio false (Nat.pow 10 n) 1

/-- A number divided by the greatest power of ten some number of times, or until it is zero. -/
def divideOut (x : Binary64) : Nat → Binary64
  | 0 => x
  | n + 1 => if x.isZero then x else (x.dividedBy (powerOfTen maxPower)).divideOut n

/-- A number times a power of ten, rounded at each step. A power that is not finite makes it
infinite, unless it is zero. -/
def scaled (x : Binary64) (exponent : Int) : Binary64 :=
  if 0 ≤ exponent then
    if exponent ≤ maxPower then x.times (powerOfTen exponent.toNat)
    else if x.isZero then x else infinity x.negative
  else
    let n := (-exponent).toNat - 1
    (x.divideOut (n / maxPower)).dividedBy (powerOfTen (n % maxPower + 1))

/-- The number of a decimal whose digits are rounded before they are scaled, with a sign. -/
def ofParts (negative : Bool) (d : Decimal) : Binary64 :=
  { (ofInt d.digits).scaled d.exponent with negative := negative }

/-- The least `k` such that the quotient is less than `10 ^ k`, for positive arguments. -/
def decimalScale (num den : Nat) : Int :=
  if den ≤ num then Decimal.length (num / den) else 1 - (Decimal.length ((den - 1) / num) : Int)

/-- The two neighbours of a quotient on the grid of the multiples of `10 ^ e`, the nearer first. -/
def neighbours (num den : Nat) (e : Int) (tie : Tie) : List Decimal :=
  let num' := num * Nat.pow 10 (-e).toNat
  let den' := den * Nat.pow 10 e.toNat
  let c := num' / den'
  let r := num' % den'
  let up := den' < 2 * r || (den' == 2 * r && (tie == .upper || c % 2 == 1))
  if up then [⟨c + 1, e⟩, ⟨c, e⟩] else [⟨c, e⟩, ⟨c + 1, e⟩]

/-- The decimals that are tried, those with the fewest digits first. -/
def candidates (x : Binary64) (tie : Tie) : List Decimal :=
  let (num, den) := x.ratio
  let k := decimalScale num den
  (List.range 17).flatMap fun n => neighbours num den (k - (n + 1 : Nat)) tie

/-- The exact value of a finite number: a power of two below one is a power of five over one of
ten. -/
def exact (x : Binary64) : Decimal :=
  ⟨(x.significand <<< x.exponent.toNat) * Nat.pow 5 (-x.exponent).toNat,
    -((-x.exponent).toNat : Int)⟩

/-- The decimal with the fewest digits that reads back as the absolute value of a finite number. -/
def shortest (x : Binary64) (tie : Tie) : Decimal :=
  if x.magnitude == 0 then ⟨0, 0⟩
  else
    match (x.candidates tie).find? fun d => ofDecimal x.negative d == x with
    | some d => d.strip
    | none => x.exact.strip

end Binary64

end LiveForm
