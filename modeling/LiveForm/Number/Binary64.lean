/-!
# Binary floating-point numbers of 64 bits

A `Binary64` is a sign and the lower 63 bits of the word. Those bits, read as a natural number,
grow with the absolute value, through all finite numbers to infinity and on to the words that are
not numbers. So comparing two numbers compares two integers (`key`), and the next number away
from zero is the successor.

A finite number has the absolute value `significand * 2 ^ exponent`. `ofRatio` goes the other way:
it rounds a quotient of naturals to the nearest number, and of two equally near ones takes the one
with the even significand. A product or a quotient of two numbers is the exact one, rounded so.
-/

namespace LiveForm

/-- A sign, and the lower 63 bits of the word as a natural number. -/
structure Binary64 where
  negative : Bool
  magnitude : Nat
  fits : magnitude < 0x8000000000000000
deriving DecidableEq

namespace Binary64

/-- The magnitude of the infinities. Greater magnitudes are not numbers. -/
def infinite : Nat := 0x7FF0000000000000

/-- Not a number. -/
def isNaN (x : Binary64) : Bool := infinite < x.magnitude

/-- Neither infinite nor not a number. -/
def isFinite (x : Binary64) : Bool := x.magnitude < infinite

/-- One of the two infinities. -/
def isInfinite (x : Binary64) : Bool := x.magnitude == infinite

/-- The number with a given sign and magnitude; what is beyond infinity becomes infinite. -/
def ofMagnitude (negative : Bool) (magnitude : Nat) : Binary64 :=
  ⟨negative, min magnitude infinite, by simp only [infinite]; omega⟩

def zero : Binary64 := ofMagnitude false 0

def infinity (negative : Bool) : Binary64 := ofMagnitude negative infinite

def nan : Binary64 := ⟨false, 0x7FF8000000000000, by decide⟩

/-- The word of 64 bits. -/
def bits (x : Binary64) : Nat := (if x.negative then 0x8000000000000000 else 0) + x.magnitude

/-- The integer that orders the numbers. Both zeros have the key zero. -/
def key (x : Binary64) : Int := if x.negative then -(x.magnitude : Int) else x.magnitude

/-- Less. Nothing is less than what is not a number, nor the other way round. -/
def lt (x y : Binary64) : Bool := !x.isNaN && !y.isNaN && x.key < y.key

/-- Equal as numbers: the zeros are equal, and what is not a number equals nothing. -/
def same (x y : Binary64) : Bool := !x.isNaN && !y.isNaN && x.key == y.key

/-- Equal to zero. -/
def isZero (x : Binary64) : Bool := x.magnitude == 0

/-- The least significand of 53 digits. It is the least magnitude of a number that has one, too. -/
def fullSignificand : Nat := 0x10000000000000

/-- With `exponent`, the absolute value of a finite number. -/
def significand (x : Binary64) : Nat :=
  if x.magnitude < fullSignificand then x.magnitude
  else fullSignificand + x.magnitude % fullSignificand

/-- The power of two that `significand` is multiplied with. -/
def exponent (x : Binary64) : Int :=
  if x.magnitude < fullSignificand then -1074 else (x.magnitude / fullSignificand : Nat) - 1075

/-- The absolute value of a finite number as numerator and denominator. -/
def ratio (x : Binary64) : Nat × Nat :=
  (x.significand <<< x.exponent.toNat, 1 <<< (-x.exponent).toNat)

/-- The absolute value, when it is a natural number. -/
def natural? (x : Binary64) : Option Nat :=
  let (num, den) := x.ratio
  if x.isFinite && num % den == 0 then some (num / den) else none

/-- The greatest `e` with `2 ^ e * den ≤ num`, for positive arguments. -/
def log2Ratio (num den : Nat) : Int :=
  let e : Int := (num.log2 : Int) - den.log2
  if den <<< e.toNat ≤ num <<< (-e).toNat then e else e - 1

/-- The quotient rounded to the nearest integer, a half to the even neighbour. -/
def roundHalfEven (num den : Nat) : Nat :=
  let q := num / den
  let r := num % den
  if den < 2 * r || (den == 2 * r && q % 2 == 1) then q + 1 else q

/-- The magnitude of the number nearest to a quotient. Significands have 53 digits, fewer where
the exponent would fall below -1074; one rounded up to 54 digits is the next power of two. -/
def magnitudeOfRatio (num den : Nat) : Nat :=
  if num == 0 then 0
  else
    let e := max (log2Ratio num den - 52) (-1074)
    (e + 1074).toNat * fullSignificand + roundHalfEven (num <<< (-e).toNat) (den <<< e.toNat)

/-- The number nearest to a quotient of naturals, with a sign. -/
def ofRatio (negative : Bool) (num den : Nat) : Binary64 :=
  ofMagnitude negative (magnitudeOfRatio num den)

/-- The number nearest to an integer. -/
def ofInt (n : Int) : Binary64 := ofRatio (decide (n < 0)) n.natAbs 1

/-- The product of two finite numbers. -/
def times (x y : Binary64) : Binary64 :=
  ofRatio (x.negative != y.negative) (x.ratio.1 * y.ratio.1) (x.ratio.2 * y.ratio.2)

/-- The quotient of two finite numbers, the second of them not zero. -/
def dividedBy (x y : Binary64) : Binary64 :=
  ofRatio (x.negative != y.negative) (x.ratio.1 * y.ratio.2) (x.ratio.2 * y.ratio.1)

theorem isFinite_ofMagnitude {negative : Bool} {m : Nat} (h : m < infinite) :
    (ofMagnitude negative m).isFinite = true := by
  exact decide_eq_true (Nat.lt_of_le_of_lt (Nat.min_le_left _ _) h)

theorem log2Ratio_one (n : Nat) : (n.log2 : Int) - 1 ≤ log2Ratio n 1 ∧ log2Ratio n 1 ≤ n.log2 := by
  have hone : Nat.log2 1 = 0 := by decide
  simp only [log2Ratio, hone]
  split <;> omega

theorem roundHalfEven_le (num den : Nat) : roundHalfEven num den ≤ num / den + 1 := by
  simp only [roundHalfEven]
  split <;> omega

/-- The number nearest to an integer of 64 bits is finite. -/
theorem isFinite_ofInt {n : Int} (h : n.natAbs ≤ 0x10000000000000000) :
    (ofInt n).isFinite = true := by
  refine isFinite_ofMagnitude ?_
  generalize n.natAbs = m at h
  by_cases hzero : m = 0
  · subst hzero
    decide
  · obtain ⟨hlow, hhigh⟩ := log2Ratio_one m
    have hlog : m.log2 < 65 := (Nat.log2_lt hzero).mpr (by omega)
    generalize he : max (log2Ratio m 1 - 52) (-1074) = e
    -- What is rounded has at most one digit more than a significand.
    have hfraction : m <<< (-e).toNat / 1 <<< e.toNat < 2 ^ 54 := by
      rw [Nat.shiftLeft_eq, Nat.shiftLeft_eq, Nat.one_mul, Nat.div_lt_iff_lt_mul (Nat.two_pow_pos _),
        ← Nat.pow_add]
      calc m * 2 ^ (-e).toNat < 2 ^ (m.log2 + 1) * 2 ^ (-e).toNat :=
            Nat.mul_lt_mul_of_pos_right Nat.lt_log2_self (Nat.two_pow_pos _)
        _ = 2 ^ (m.log2 + 1 + (-e).toNat) := (Nat.pow_add ..).symm
        _ ≤ 2 ^ (54 + e.toNat) := Nat.pow_le_pow_right (by decide) (by omega)
    have hround := roundHalfEven_le (m <<< (-e).toNat) (1 <<< e.toNat)
    have hscaled : (e + 1074).toNat * fullSignificand ≤ 1086 * fullSignificand :=
      Nat.mul_le_mul_right _ (by omega)
    simp only [magnitudeOfRatio, beq_iff_eq, if_neg hzero, he]
    simp only [infinite, fullSignificand] at hscaled ⊢
    omega

theorem same_self {x : Binary64} (h : x.isFinite = true) : x.same x = true := by
  simp only [isFinite, decide_eq_true_eq] at h
  simp [same, isNaN]; omega

end Binary64

end LiveForm
