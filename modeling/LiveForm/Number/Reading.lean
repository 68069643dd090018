import LiveForm.Number.Decimal
import LiveForm.Text.Blank

/-!
# Numbers read from text

A number in a text is an optional sign, digits with an optional point among, before or after them,
and an optional exponent. At least one digit stands outside the exponent. `Binary64.ofText?` reads
exactly that, and the words `inf`, `infinity` and `nan` in any case; blanks are not skipped.

`Decimal.ofDigits` takes all the digits. `Decimal.ofWord` takes those that fit into a word of 64
bits and drops the others.
-/

namespace LiveForm

namespace Text

/-- The value of a run of decimal digits. -/
def digitsValue (cs : List Char) : Nat :=
  cs.foldl (fun n c => 10 * n + (c.toNat - '0'.toNat)) 0

/-- The value of `n` with more digits behind it, as far as it is one of 64 bits, and the digits that
are left from the first one on that does not fit. -/
def takeWord (n : Nat) : List Char → Nat × List Char
  | [] => (n, [])
  | c :: rest =>
    let next := 10 * n + (c.toNat - '0'.toNat)
    if next < 0x10000000000000000 then takeWord next rest else (n, c :: rest)

/-- The digits in front, and what follows them. -/
def spanDigits (cs : List Char) : List Char × List Char :=
  (cs.takeWhile Char.isDigit, cs.dropWhile Char.isDigit)

/-- A sign in front, as "is negative", and what follows it. -/
def spanSign : List Char → Bool × List Char
  | '-' :: rest => (true, rest)
  | '+' :: rest => (false, rest)
  | cs => (false, cs)

/-- The exponent of a number: `e` or `E`, an optional sign, at least one digit. -/
def exponent? : List Char → Option (Int × List Char)
  | c :: rest =>
    if c = 'e' ∨ c = 'E' then
      let (negative, rest) := spanSign rest
      let (digits, rest) := spanDigits rest
      if digits.isEmpty then none
      else
        let n : Int := digitsValue digits
        some (if negative then -n else n, rest)
    else none
  | [] => none

/-- Letters of the alphabet without their case. -/
def lowerAscii (cs : List Char) : List Char := cs.map Char.toLower

end Text

namespace Decimal

/-- The decimal with given digits before and after the point, times a power of ten. -/
def ofDigits (whole fraction : List Char) (exponent : Int) : Decimal :=
  ⟨Text.digitsValue (whole ++ fraction), exponent - fraction.length⟩

/-- The decimal of digits before and after the point, times a power of ten, without the digits that
do not fit. One that was dropped before the point leaves its power of ten. -/
def ofWord (whole fraction : List Char) (exponent : Int) : Decimal :=
  let (n, dropped) := Text.takeWord 0 whole
  let (n, beyond) := Text.takeWord n fraction
  ⟨n, exponent + dropped.length - (fraction.length - beyond.length)⟩

/-- A decimal without a sign, as long as the text. -/
def ofText? (cs : List Char) : Option Decimal :=
  let (whole, rest) := Text.spanDigits cs
  let (fraction, rest) :=
    match rest with
    | '.' :: rest => Text.spanDigits rest
    | _ => ([], rest)
  if whole.isEmpty && fraction.isEmpty then none
  else
    match rest with
    | [] => some (ofDigits whole fraction 0)
    | _ =>
      match Text.exponent? rest with
      | some (e, []) => some (ofDigits whole fraction e)
      | _ => none

end Decimal

namespace Binary64

/-- The number that a text stands for, blanks not skipped. -/
def ofChars? (cs : List Char) : Option Binary64 :=
  let (negative, rest) := Text.spanSign cs
  let word := String.ofList (Text.lowerAscii rest)
  if word = "inf" ∨ word = "infinity" then some (infinity negative)
  else if word = "nan" then some nan
  else (Decimal.ofText? rest).map (ofDecimal negative)

/-- The number that a text stands for between its blanks. A blank text stands for zero, and one
that is no number for `nan`. -/
def ofText (s : String) : Binary64 :=
  match Text.trimChars s.toList with
  | [] => zero
  | cs => (ofChars? cs).getD nan

end Binary64

end LiveForm
