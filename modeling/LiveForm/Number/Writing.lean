import LiveForm.Number.Decimal

/-!
# Numbers written as text

A number is written with the fewest digits that read back. A `NumberStyle` says where the point
goes: positionally or with an exponent, and whether a whole number ends in `.0`. There are two
styles. `NumberStyle.plain` is for people: never an exponent, whole numbers without a point, one
zero. `NumberStyle.json` is for data: a number that is not an integer token shows its point or
exponent, and the zeros keep their signs.
-/

namespace LiveForm

/-- The decisions that make a text out of the digits of a number. -/
structure NumberStyle where
  /-- The exponents of the leading digit that are written positionally. -/
  positional : Int → Bool
  /-- A whole number written positionally ends in `.0`. -/
  pointZero : Bool
  /-- Negative zero has a sign. -/
  signedZero : Bool
  /-- Which of two equally near decimals is written. -/
  tie : Tie

namespace NumberStyle

def plain : NumberStyle where
  positional := fun _ => true
  pointZero := false
  signedZero := false
  tie := .upper

def json : NumberStyle where
  positional := fun e => -5 ≤ e && e < 16
  pointZero := true
  signedZero := true
  tie := .even

/-- Digits times a power of ten without an exponent. -/
def writePositional (style : NumberStyle) (ds : List Char) (exponent : Int) : List Char :=
  let point := exponent + ds.length
  if 0 ≤ exponent then
    ds ++ List.replicate exponent.toNat '0' ++ (if style.pointZero then ['.', '0'] else [])
  else if 0 < point then ds.take point.toNat ++ '.' :: ds.drop point.toNat
  else '0' :: '.' :: (List.replicate (-point).toNat '0' ++ ds)

/-- Digits times a power of ten with one digit before the point, and a signed exponent. -/
def writeScientific (ds : List Char) (exponent : Int) : List Char :=
  let e := exponent + ds.length - 1
  let mantissa :=
    match ds with
    | d :: rest => if rest.isEmpty then [d] else d :: '.' :: rest
    | [] => []
  mantissa ++ 'e' :: (if e < 0 then '-' else '+') :: Nat.toDigits 10 e.natAbs

/-- A decimal without a sign. -/
def writeDecimal (style : NumberStyle) (d : Decimal) : List Char :=
  let ds := Nat.toDigits 10 d.digits
  if style.positional (d.exponent + ds.length - 1) then style.writePositional ds d.exponent
  else writeScientific ds d.exponent

/-- A number. Those that are not finite are words. -/
def write (style : NumberStyle) (x : Binary64) : List Char :=
  if x.isNaN then "NaN".toList
  else
    let sign := if x.negative && (style.signedZero || !x.isZero) then ['-'] else []
    let body :=
      if x.isInfinite then "Infinity".toList else style.writeDecimal (x.shortest style.tie)
    sign ++ body

end NumberStyle

namespace Binary64

/-- The text of a number for people. -/
def plainText (x : Binary64) : String := String.ofList (NumberStyle.plain.write x)

end Binary64

end LiveForm
