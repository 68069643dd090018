import LiveForm.Number.Decimal
import Mathlib.Data.Int.Log
import Mathlib.Data.Nat.Digits.Defs
import Mathlib.Data.Rat.Floor
import Mathlib.Algebra.Order.Field.Power
import Mathlib.Tactic.FieldSimp
import Mathlib.Tactic.LinearCombination
import Mathlib.Tactic.Positivity

/-!
# Numbers and the decimals nearest to them

Rounding is defined on pairs of naturals, with shifts and divisions. What it depends on is the
rational number that the pair stands for: `Binary64.log2Ratio` is its binary logarithm, and pairs
of one value are rounded alike. The exponent of the leading digit of a decimal is likewise a
logarithm, so `Binary64.ofDecimal` depends on the value of a decimal only, and it may be written
with zeros at its end or without them.

A finite number is what its own value is rounded to. So `Binary64.exact` reads back as the number
it was made of, and with it `Binary64.shortest`, which falls back on it.

`Binary64.ofParts` rounds the digits of a decimal, the power of ten and what it makes of the two. It
gives the nearest number if the first two are exact (`Binary64.ofParts_eq_ofDecimal`).
-/

namespace LiveForm

/-! ## Powers with an exponent that may be negative -/

/-- A power with an integer exponent as a quotient of naturals. -/
theorem zpow_eq_div (b : ℕ) (hb : b ≠ 0) (e : ℤ) :
    (b : ℚ) ^ e = ((b ^ e.toNat : ℕ) : ℚ) / ((b ^ (-e).toNat : ℕ) : ℚ) := by
  have hcast : (b : ℚ) ≠ 0 := Nat.cast_ne_zero.mpr hb
  have hsplit : e = (e.toNat : ℤ) - ((-e).toNat : ℤ) := by omega
  conv_lhs => rw [hsplit]
  rw [zpow_sub₀ hcast, zpow_natCast, zpow_natCast, Nat.cast_pow, Nat.cast_pow]

namespace Decimal

/-- The number that a decimal stands for. -/
def value (d : Decimal) : ℚ := d.digits * 10 ^ d.exponent

theorem ratio_value (d : Decimal) : (d.ratio.1 : ℚ) / d.ratio.2 = d.value := by
  have hpow := zpow_eq_div 10 (by decide) d.exponent
  rw [value]
  show ((d.digits * 10 ^ d.exponent.toNat : ℕ) : ℚ) / ((10 ^ (-d.exponent).toNat : ℕ) : ℚ) = _
  rw [Nat.cast_mul, mul_div_assoc, ← hpow]
  norm_num

theorem ratio_den_ne_zero (d : Decimal) : d.ratio.2 ≠ 0 :=
  pow_ne_zero (-d.exponent).toNat (by decide : (10 : ℕ) ≠ 0)

theorem value_eq_zero {d : Decimal} : d.value = 0 ↔ d.digits = 0 := by
  have hpow : (10 : ℚ) ^ d.exponent ≠ 0 := zpow_ne_zero _ (by norm_num)
  rw [value, mul_eq_zero, or_iff_left hpow, Nat.cast_eq_zero]

theorem length_pos (n : ℕ) : 0 < length n := Nat.length_toDigits_pos

/-- A positive number has as many digits as its decimal logarithm says. -/
theorem length_eq_log {n : ℕ} (hn : n ≠ 0) : length n = Nat.log 10 n + 1 := by
  have hlog : n < 10 ^ (Nat.log 10 n + 1) := Nat.lt_pow_succ_log_self (by decide) n
  have hupper : length n ≤ Nat.log 10 n + 1 :=
    (Nat.length_toDigits_le_iff (by decide) (Nat.succ_pos _)).mpr hlog
  have hlength : n < 10 ^ length n :=
    (Nat.length_toDigits_le_iff (by decide) (length_pos n)).mp (Nat.le_refl _)
  have hlower : Nat.log 10 n < length n := Nat.log_lt_of_lt_pow hn hlength
  omega

/-- The number of digits and the exponent say how great a decimal is. -/
theorem top_eq_log {d : Decimal} (h : d.digits ≠ 0) :
    d.exponent + length d.digits = Int.log 10 d.value + 1 := by
  have hpos : (0 : ℚ) < d.digits := Nat.cast_pos.mpr (Nat.pos_of_ne_zero h)
  have hscale : (0 : ℚ) < (10 : ℚ) ^ d.exponent := zpow_pos (by norm_num) _
  have hvalue : 0 < d.value := mul_pos hpos hscale
  have hdigits : Int.log 10 (d.digits : ℚ) = Nat.log 10 d.digits := Int.log_natCast 10 d.digits
  have hlow := Int.zpow_log_le_self (b := 10) (by decide) hpos
  have hhigh := Int.lt_zpow_succ_log_self (b := 10) (by decide) (d.digits : ℚ)
  have hlower : Nat.log 10 d.digits + d.exponent ≤ Int.log 10 d.value := by
    apply (Int.zpow_le_iff_le_log (by decide) hvalue).mp
    rw [Nat.cast_ofNat, zpow_add₀ (by norm_num), ← hdigits]
    exact mul_le_mul_of_nonneg_right hlow hscale.le
  have hupper : Int.log 10 d.value < Nat.log 10 d.digits + 1 + d.exponent := by
    apply (Int.lt_zpow_iff_log_lt (by decide) hvalue).mp
    rw [Nat.cast_ofNat, zpow_add₀ (by norm_num), ← hdigits]
    exact mul_lt_mul_of_pos_right hhigh hscale
  rw [length_eq_log h]
  omega

/-- A zero more at the end of the digits is no change of the value. -/
theorem value_shift (n : ℕ) (e : ℤ) : value ⟨n * 10, e⟩ = value ⟨n, e + 1⟩ := by
  simp only [value, zpow_add_one₀ (show (10 : ℚ) ≠ 0 by norm_num), Nat.cast_mul, Nat.cast_ofNat]
  ring

/-- Nor are zeros up to the point and one behind it. -/
theorem value_zeros_behind {d : Decimal} (h : 0 ≤ d.exponent) :
    value ⟨10 * (10 ^ d.exponent.toNat * d.digits), -1⟩ = d.value := by
  have hpower : (10 : ℚ) ^ d.exponent = 10 ^ d.exponent.toNat := by
    rw [← zpow_natCast, Int.toNat_of_nonneg h]
  rw [value, value, hpower]
  push_cast
  ring

theorem strip_value (d : Decimal) : d.strip.value = d.value := by
  rw [strip]
  generalize length d.digits = fuel
  induction fuel generalizing d with
  | zero => rfl
  | succ fuel ih =>
    rw [strip.go]
    split
    · rename_i hzero
      rw [Bool.and_eq_true, beq_iff_eq] at hzero
      have hdigits : d.digits / 10 * 10 = d.digits := by omega
      rw [ih, ← value_shift, hdigits]
    · rfl

end Decimal

namespace Binary64

/-! ## Rounding a quotient -/

/-- The comparison that decides between two exponents compares the quotient with a power of two. -/
theorem fits_iff (num : ℕ) {den : ℕ} (hden : den ≠ 0) (e : ℤ) :
    den <<< e.toNat ≤ num <<< (-e).toNat ↔ (2 : ℚ) ^ e ≤ num / den := by
  have hpow := zpow_eq_div 2 (by decide) e
  have hpos : (0 : ℚ) < den := Nat.cast_pos.mpr (Nat.pos_of_ne_zero hden)
  have hscale : (0 : ℚ) < ((2 ^ (-e).toNat : ℕ) : ℚ) := Nat.cast_pos.mpr (by positivity)
  rw [Nat.cast_ofNat] at hpow
  rw [hpow, div_le_div_iff₀ hscale hpos, Nat.shiftLeft_eq, Nat.shiftLeft_eq, mul_comm den]
  exact_mod_cast Iff.rfl

theorem log2Ratio_eq_log {num den : ℕ} (hnum : num ≠ 0) (hden : den ≠ 0) :
    log2Ratio num den = Int.log 2 (num / den : ℚ) := by
  have hnumPos : (0 : ℚ) < num := Nat.cast_pos.mpr (Nat.pos_of_ne_zero hnum)
  have hdenPos : (0 : ℚ) < den := Nat.cast_pos.mpr (Nat.pos_of_ne_zero hden)
  have hquotient : (0 : ℚ) < num / den := div_pos hnumPos hdenPos
  have htwo : (2 : ℚ) ≠ 0 := by norm_num
  have hcast {n : ℕ} (h : n ≠ 0) :
      (2 : ℚ) ^ (n.log2 : ℤ) ≤ n ∧ (n : ℚ) < 2 ^ ((n.log2 : ℤ) + 1) := by
    constructor
    · exact_mod_cast Nat.log2_self_le h
    · exact_mod_cast (Nat.lt_log2_self (n := n))
  obtain ⟨hnumLow, hnumHigh⟩ := hcast hnum
  obtain ⟨hdenLow, hdenHigh⟩ := hcast hden
  generalize hexp : (num.log2 : ℤ) - den.log2 = e
  -- The difference of the logarithms is the logarithm of the quotient or one more.
  have hlow : (2 : ℚ) ^ (e - 1) ≤ num / den := by
    rw [le_div_iff₀ hdenPos]
    calc (2 : ℚ) ^ (e - 1) * den ≤ 2 ^ (e - 1) * 2 ^ ((den.log2 : ℤ) + 1) :=
          mul_le_mul_of_nonneg_left hdenHigh.le (by positivity)
      _ = 2 ^ (num.log2 : ℤ) := by
          rw [← zpow_add₀ htwo]
          congr 1
          omega
      _ ≤ num := hnumLow
  have hhigh : (num / den : ℚ) < 2 ^ (e + 1) := by
    rw [div_lt_iff₀ hdenPos]
    calc (num : ℚ) < 2 ^ ((num.log2 : ℤ) + 1) := hnumHigh
      _ = 2 ^ (e + 1) * 2 ^ (den.log2 : ℤ) := by
          rw [← zpow_add₀ htwo]
          congr 1
          omega
      _ ≤ 2 ^ (e + 1) * den := mul_le_mul_of_nonneg_left hdenLow (by positivity)
  have hlogLow := (Int.zpow_le_iff_le_log (b := 2) (by decide) hquotient).mp hlow
  have hlogHigh := (Int.lt_zpow_iff_log_lt (b := 2) (by decide) hquotient).mp hhigh
  have hlog := Int.zpow_le_iff_le_log (b := 2) (by decide) (x := e) hquotient
  have hfits := fits_iff num hden e
  simp only [log2Ratio, hexp]
  split
  · rename_i h
    have := hlog.mp (hfits.mp h)
    omega
  · rename_i h
    have : ¬ e ≤ Int.log 2 (num / den : ℚ) := fun hle => h (hfits.mpr (hlog.mpr hle))
    omega

/-- Both parts of a quotient times one number. -/
theorem roundHalfEven_mul_right (num den : ℕ) {k : ℕ} (hk : k ≠ 0) :
    roundHalfEven (num * k) (den * k) = roundHalfEven num den := by
  have hpos : 0 < k := Nat.pos_of_ne_zero hk
  have hless : den * k < 2 * (num % den * k) ↔ den < 2 * (num % den) := by
    rw [← mul_assoc, Nat.mul_lt_mul_right hpos]
  have hsame : den * k = 2 * (num % den * k) ↔ den = 2 * (num % den) := by
    rw [← mul_assoc, Nat.mul_left_inj hk]
  simp only [roundHalfEven, Nat.mul_div_mul_right _ _ hpos, Nat.mul_mod_mul_right]
  simp only [Bool.or_eq_true, Bool.and_eq_true, decide_eq_true_eq, beq_iff_eq, hless, hsame]

/-- Quotients of one value are rounded alike. -/
theorem roundHalfEven_congr {num den num' den' : ℕ} (hden : den ≠ 0) (hden' : den' ≠ 0)
    (h : num * den' = num' * den) : roundHalfEven num den = roundHalfEven num' den' := by
  calc roundHalfEven num den
      = roundHalfEven (num * den') (den * den') := (roundHalfEven_mul_right _ _ hden').symm
    _ = roundHalfEven (num' * den) (den' * den) := by rw [h, mul_comm den]
    _ = roundHalfEven num' den' := roundHalfEven_mul_right _ _ hden

theorem roundHalfEven_one (n : ℕ) : roundHalfEven n 1 = n := by
  simp [roundHalfEven, Nat.mod_one]

theorem magnitudeOfRatio_zero (den : ℕ) : magnitudeOfRatio 0 den = 0 := by
  rw [magnitudeOfRatio, if_pos (beq_self_eq_true 0)]

/-- Pairs of one value have one nearest number. -/
theorem ofRatio_congr {num den num' den' : ℕ} (negative : Bool) (hden : den ≠ 0)
    (hden' : den' ≠ 0) (h : (num / den : ℚ) = num' / den') :
    ofRatio negative num den = ofRatio negative num' den' := by
  have hcross : num * den' = num' * den := by
    rw [div_eq_div_iff (Nat.cast_ne_zero.mpr hden) (Nat.cast_ne_zero.mpr hden')] at h
    exact_mod_cast h
  suffices hmagnitude : magnitudeOfRatio num den = magnitudeOfRatio num' den' by
    rw [ofRatio, ofRatio, hmagnitude]
  by_cases hzero : num = 0
  · have hzero' : num' = 0 := by
      rw [hzero, zero_mul] at hcross
      exact (Nat.mul_eq_zero.mp hcross.symm).resolve_right hden
    rw [hzero, hzero', magnitudeOfRatio_zero, magnitudeOfRatio_zero]
  · have hzero' : num' ≠ 0 := by
      rintro rfl
      rw [zero_mul] at hcross
      exact (Nat.mul_eq_zero.mp hcross).elim hzero hden'
    have hlog : log2Ratio num den = log2Ratio num' den' := by
      rw [log2Ratio_eq_log hzero hden, log2Ratio_eq_log hzero' hden', h]
    simp only [magnitudeOfRatio, beq_iff_eq, if_neg hzero, if_neg hzero', hlog]
    congr 1
    refine roundHalfEven_congr ?_ ?_ ?_
    · rw [Nat.shiftLeft_eq]
      exact Nat.mul_ne_zero hden (by positivity)
    · rw [Nat.shiftLeft_eq]
      exact Nat.mul_ne_zero hden' (by positivity)
    · simp only [Nat.shiftLeft_eq]
      linear_combination (2 ^ (-max (log2Ratio num' den' - 52) (-1074)).toNat *
        2 ^ (max (log2Ratio num' den' - 52) (-1074)).toNat) * hcross

/-! ## Finite numbers -/

variable {x : Binary64}

/-- The absolute value of a finite number. -/
def value (x : Binary64) : ℚ := x.significand * 2 ^ x.exponent

theorem ratio_value (x : Binary64) : (x.ratio.1 : ℚ) / x.ratio.2 = x.value := by
  have hpow := zpow_eq_div 2 (by decide) x.exponent
  simp only [ratio, value, Nat.shiftLeft_eq, Nat.one_mul, Nat.cast_mul]
  rw [mul_div_assoc, ← hpow]
  norm_num

theorem ratio_den_ne_zero (x : Binary64) : x.ratio.2 ≠ 0 := by
  simp only [ratio, Nat.shiftLeft_eq, Nat.one_mul]
  positivity

theorem ofMagnitude_self (h : x.isFinite = true) : ofMagnitude x.negative x.magnitude = x := by
  obtain ⟨negative, magnitude, fits⟩ := x
  have hle : magnitude ≤ infinite := Nat.le_of_lt (of_decide_eq_true h)
  simp only [ofMagnitude, Nat.min_eq_left hle]

/-- A significand has at most 53 digits, and 53 unless the exponent is the least. -/
theorem significand_bounds (x : Binary64) :
    x.significand < 2 ^ 53 ∧ (2 ^ 52 ≤ x.significand ∨ x.exponent = -1074) := by
  by_cases h : x.magnitude < fullSignificand
  · rw [significand, exponent, if_pos h, if_pos h]
    simp only [fullSignificand] at h
    exact ⟨by omega, .inr rfl⟩
  · rw [significand, exponent, if_neg h, if_neg h]
    simp only [fullSignificand] at h ⊢
    exact ⟨by omega, .inl (by omega)⟩

theorem exponent_bounds (h : x.isFinite = true) : -1074 ≤ x.exponent ∧ x.exponent ≤ 971 := by
  have hfinite : x.magnitude < infinite := of_decide_eq_true h
  simp only [infinite] at hfinite
  by_cases h : x.magnitude < fullSignificand
  · simp only [exponent, if_pos h]
    omega
  · simp only [exponent, if_neg h]
    simp only [fullSignificand] at h ⊢
    omega

theorem significand_eq_zero : x.significand = 0 ↔ x.magnitude = 0 := by
  by_cases h : x.magnitude < fullSignificand
  · simp only [significand, if_pos h]
  · simp only [significand, if_neg h]
    simp only [fullSignificand] at h ⊢
    omega

/-- The magnitude in terms of the parts of a number. -/
theorem magnitude_eq (x : Binary64) :
    (x.exponent + 1074).toNat * fullSignificand + x.significand = x.magnitude := by
  by_cases h : x.magnitude < fullSignificand
  · rw [significand, exponent, if_pos h, if_pos h]
    exact (congrArg (· + x.magnitude) (Nat.zero_mul fullSignificand)).trans (Nat.zero_add _)
  · rw [significand, exponent, if_neg h, if_neg h]
    simp only [fullSignificand] at h ⊢
    omega

theorem value_pos (h : x.magnitude ≠ 0) : 0 < x.value := by
  have hsignificand : 0 < x.significand := Nat.pos_of_ne_zero (mt significand_eq_zero.mp h)
  exact mul_pos (Nat.cast_pos.mpr hsignificand) (zpow_pos (by norm_num) _)

/-- The exponent that rounding finds for the value of a number is the number's own. -/
theorem max_log_value (hfinite : x.isFinite = true) (h : x.magnitude ≠ 0) :
    max (Int.log 2 x.value - 52) (-1074) = x.exponent := by
  obtain ⟨hlarge, hfull⟩ := x.significand_bounds
  have hscale : (0 : ℚ) < 2 ^ x.exponent := zpow_pos (by norm_num) _
  have hupper : Int.log 2 x.value < 53 + x.exponent := by
    apply (Int.lt_zpow_iff_log_lt (by decide) (value_pos h)).mp
    rw [Nat.cast_ofNat, zpow_add₀ (by norm_num)]
    exact mul_lt_mul_of_pos_right (by exact_mod_cast hlarge) hscale
  rcases hfull with hfull | hleast
  · have hlower : 52 + x.exponent ≤ Int.log 2 x.value := by
      apply (Int.zpow_le_iff_le_log (by decide) (value_pos h)).mp
      rw [Nat.cast_ofNat, zpow_add₀ (by norm_num)]
      exact mul_le_mul_of_nonneg_right (by exact_mod_cast hfull) hscale.le
    have hbound := (exponent_bounds hfinite).1
    omega
  · omega

/-- A finite number is the nearest one to its own value. -/
theorem ofRatio_ratio (hfinite : x.isFinite = true) :
    ofRatio x.negative x.ratio.1 x.ratio.2 = x := by
  suffices hmagnitude : magnitudeOfRatio x.ratio.1 x.ratio.2 = x.magnitude by
    rw [ofRatio, hmagnitude, ofMagnitude_self hfinite]
  by_cases hzero : x.magnitude = 0
  · have hnum : x.ratio.1 = 0 := by
      simp only [ratio, significand_eq_zero.mpr hzero, Nat.zero_shiftLeft]
    rw [hnum, hzero, magnitudeOfRatio_zero]
  · have hnum : x.ratio.1 ≠ 0 := by
      intro hnum
      have hvalue := x.ratio_value
      rw [hnum, Nat.cast_zero, zero_div] at hvalue
      exact (value_pos hzero).ne hvalue
    have hexponent : max (log2Ratio x.ratio.1 x.ratio.2 - 52) (-1074) = x.exponent := by
      rw [log2Ratio_eq_log hnum x.ratio_den_ne_zero, ratio_value, max_log_value hfinite hzero]
    -- What is rounded is the significand over one, both of them shifted.
    have hround : roundHalfEven (x.ratio.1 <<< (-x.exponent).toNat)
        (x.ratio.2 <<< x.exponent.toNat) = x.significand := by
      rw [← roundHalfEven_one x.significand]
      simp only [ratio, Nat.shiftLeft_eq]
      refine roundHalfEven_congr (by positivity) (by decide) ?_
      ring
    simp only [magnitudeOfRatio, beq_iff_eq, if_neg hnum, hexponent, hround]
    exact x.magnitude_eq

/-! ## Decimals -/

/-- Decimals of one value have one nearest number. -/
theorem ofDecimal_congr {d d' : Decimal} (negative : Bool) (h : d.value = d'.value) :
    ofDecimal negative d = ofDecimal negative d' := by
  have hzero : d.digits = 0 ↔ d'.digits = 0 := by
    rw [← Decimal.value_eq_zero, h, Decimal.value_eq_zero]
  by_cases hdigits : d.digits = 0
  · have hdigits' := hzero.mp hdigits
    simp [ofDecimal, hdigits, hdigits']
  · have hdigits' : ¬ d'.digits = 0 := fun h => hdigits (hzero.mpr h)
    have htop : d.exponent + Decimal.length d.digits = d'.exponent + Decimal.length d'.digits := by
      rw [Decimal.top_eq_log hdigits, Decimal.top_eq_log hdigits', h]
    have hratio : ofRatio negative d.ratio.1 d.ratio.2 = ofRatio negative d'.ratio.1 d'.ratio.2 := by
      refine ofRatio_congr negative d.ratio_den_ne_zero d'.ratio_den_ne_zero ?_
      rw [Decimal.ratio_value, Decimal.ratio_value, h]
    simp [ofDecimal, hdigits, hdigits', htop, hratio]

/-- A decimal is rounded if it is neither too small nor too great. -/
theorem ofDecimal_eq_ofRatio {d : Decimal} (negative : Bool) (hdigits : d.digits ≠ 0)
    (hlow : -323 ≤ d.exponent + Decimal.length d.digits)
    (hhigh : d.exponent + Decimal.length d.digits ≤ 309) :
    ofDecimal negative d = ofRatio negative d.ratio.1 d.ratio.2 := by
  have hsmall : ¬ (d.digits == 0 ||
      decide (d.exponent + Decimal.length d.digits < -323)) = true := by
    rw [Bool.or_eq_true, beq_iff_eq, decide_eq_true_eq]
    omega
  simp only [ofDecimal]
  rw [if_neg hsmall, if_neg (not_lt.mpr hhigh)]

theorem exact_value (x : Binary64) : x.exact.value = x.value := by
  have htwo := zpow_eq_div 2 (by decide) x.exponent
  have hten : (10 : ℚ) ^ (-((-x.exponent).toNat : ℤ)) = ((10 ^ (-x.exponent).toNat : ℕ) : ℚ)⁻¹ := by
    rw [zpow_neg, zpow_natCast, Nat.cast_pow, Nat.cast_ofNat]
  have hfactor : (10 : ℕ) ^ (-x.exponent).toNat =
      2 ^ (-x.exponent).toNat * 5 ^ (-x.exponent).toNat := mul_pow 2 5 _
  rw [Nat.cast_ofNat] at htwo
  simp only [exact, Decimal.value, value, htwo, hten, hfactor, Nat.shiftLeft_eq]
  show ((x.significand * 2 ^ x.exponent.toNat * 5 ^ (-x.exponent).toNat : ℕ) : ℚ) * _ = _
  push_cast
  field_simp

/-- The logarithm of a finite number that is not zero. -/
theorem log_value_bounds (hfinite : x.isFinite = true) (h : x.magnitude ≠ 0) :
    -324 ≤ Int.log 10 x.value ∧ Int.log 10 x.value < 309 := by
  obtain ⟨hleast, hgreatest⟩ := exponent_bounds hfinite
  obtain ⟨hsignificand, -⟩ := x.significand_bounds
  have hone : (1 : ℚ) ≤ x.significand :=
    Nat.one_le_cast.mpr (Nat.pos_of_ne_zero (mt significand_eq_zero.mp h))
  constructor
  · apply (Int.zpow_le_iff_le_log (by decide) (value_pos h)).mp
    have hpower : (10 : ℚ) ^ (-324 : ℤ) ≤ 2 ^ (-1074 : ℤ) := by
      have hnat : 2 ^ 1074 ≤ 10 ^ 324 := by decide +kernel
      rw [zpow_neg, zpow_neg]
      apply inv_anti₀ (by positivity)
      exact_mod_cast hnat
    calc ((10 : ℕ) : ℚ) ^ (-324 : ℤ) ≤ 2 ^ (-1074 : ℤ) := hpower
      _ ≤ 2 ^ x.exponent := zpow_le_zpow_right₀ (by norm_num) hleast
      _ ≤ x.significand * 2 ^ x.exponent := le_mul_of_one_le_left (by positivity) hone
  · apply (Int.lt_zpow_iff_log_lt (by decide) (value_pos h)).mp
    have hpower : (2 : ℚ) ^ (53 : ℤ) * 2 ^ (971 : ℤ) < 10 ^ (309 : ℤ) := by
      have hnat : 2 ^ 53 * 2 ^ 971 < 10 ^ 309 := by decide +kernel
      exact_mod_cast hnat
    calc (x.significand : ℚ) * 2 ^ x.exponent ≤ 2 ^ (53 : ℤ) * 2 ^ (971 : ℤ) := by
          refine mul_le_mul ?_ (zpow_le_zpow_right₀ (by norm_num) hgreatest) (by positivity)
            (by positivity)
          exact_mod_cast hsignificand.le
      _ < ((10 : ℕ) : ℚ) ^ (309 : ℤ) := hpower

/-- The exact value of a finite number reads back as the number. -/
theorem ofDecimal_exact (hfinite : x.isFinite = true) (h : x.magnitude ≠ 0) :
    ofDecimal x.negative x.exact = x := by
  have hdigits : x.exact.digits ≠ 0 := by
    rw [ne_eq, ← Decimal.value_eq_zero, exact_value]
    exact (value_pos h).ne'
  have htop := Decimal.top_eq_log hdigits
  obtain ⟨hlow, hhigh⟩ := log_value_bounds hfinite h
  rw [exact_value] at htop
  have hratio : ofRatio x.negative x.exact.ratio.1 x.exact.ratio.2 = x := by
    rw [ofRatio_congr x.negative x.exact.ratio_den_ne_zero x.ratio_den_ne_zero
      (by rw [Decimal.ratio_value, exact_value, ratio_value]), ofRatio_ratio hfinite]
  rw [ofDecimal_eq_ofRatio x.negative hdigits (by omega) (by omega), hratio]

/-- The decimal with the fewest digits reads back as the number that it was made of. -/
theorem ofDecimal_shortest (hfinite : x.isFinite = true) (tie : Tie) :
    ofDecimal x.negative (x.shortest tie) = x := by
  rw [shortest]
  split
  · rename_i hzero
    have hself := ofMagnitude_self hfinite
    rw [beq_iff_eq.mp hzero] at hself
    exact hself
  · rename_i hzero
    split
    · rename_i d hfound
      have hd := List.find?_some hfound
      rw [beq_iff_eq] at hd
      rw [ofDecimal_congr x.negative d.strip_value, hd]
    · have hmagnitude : x.magnitude ≠ 0 := fun h => hzero (beq_iff_eq.mpr h)
      rw [ofDecimal_congr x.negative x.exact.strip_value, ofDecimal_exact hfinite hmagnitude]

/-- The decimal has digits that are not all zero, or it is zero itself. -/
theorem shortest_digits (hfinite : x.isFinite = true) (tie : Tie) :
    (x.shortest tie).digits ≠ 0 ∨ x.shortest tie = ⟨0, 0⟩ := by
  by_cases hzero : x.magnitude = 0
  · right
    simp [shortest, hzero]
  · left
    intro hdigits
    have hread := ofDecimal_shortest hfinite tie
    rw [ofDecimal, hdigits] at hread
    have hmagnitude : x.magnitude = 0 := by
      rw [← hread]
      rfl
    exact hzero hmagnitude

/-! ## Decimals scaled by powers of ten

The digits of a decimal are a number exactly if there are not too many of them, and so is a power of
ten that is not too great. Then there is only one rounding, that of the product or the quotient. -/

/-- The value of a number with a significand of full length. -/
theorem value_ofMagnitude {scale m : ℕ} (hlow : 2 ^ 52 ≤ m) (hhigh : m < 2 ^ 53)
    (hscale : scale ≤ 2045) (negative : Bool) :
    (ofMagnitude negative (scale * fullSignificand + m)).value = m * 2 ^ ((scale : ℤ) - 1074) := by
  have hmagnitude : (ofMagnitude negative (scale * fullSignificand + m)).magnitude =
      scale * fullSignificand + m := by
    apply Nat.min_eq_left
    simp only [fullSignificand, infinite]
    omega
  have hnormal : ¬ scale * fullSignificand + m < fullSignificand := by
    simp only [fullSignificand]
    omega
  rw [value, significand, exponent, hmagnitude, if_neg hnormal, if_neg hnormal]
  simp only [fullSignificand]
  congr 2
  · omega
  · omega

theorem log2Ratio_natural {n : ℕ} (h : n ≠ 0) : log2Ratio n 1 = n.log2 := by
  have hone : Nat.log2 1 = 0 := by decide
  have hfits : 1 <<< ((n.log2 : ℤ) - (0 : ℕ)).toNat ≤ n <<< (-((n.log2 : ℤ) - (0 : ℕ))).toNat := by
    rw [show ((n.log2 : ℤ) - (0 : ℕ)).toNat = n.log2 by omega,
      show (-((n.log2 : ℤ) - (0 : ℕ))).toNat = 0 by omega, Nat.one_shiftLeft]
    exact Nat.log2_self_le h
  simp only [log2Ratio, hone, if_pos hfits]
  omega

/-- The significand of a small natural number is the number shifted to the full length. -/
theorem magnitudeOfRatio_natural {n : ℕ} (h : n ≠ 0) (hlog : n.log2 ≤ 52) :
    magnitudeOfRatio n 1 = (n.log2 + 1022) * fullSignificand + n * 2 ^ (52 - n.log2) := by
  have hratio := log2Ratio_natural h
  generalize n.log2 = l at hlog hratio ⊢
  have hscale : max ((l : ℤ) - 52) (-1074) = (l : ℤ) - 52 := by omega
  have hshift : (-((l : ℤ) - 52)).toNat = 52 - l := by omega
  have hnone : ((l : ℤ) - 52).toNat = 0 := by omega
  have hstep : ((l : ℤ) - 52 + 1074).toNat = l + 1022 := by omega
  simp only [magnitudeOfRatio, beq_iff_eq, if_neg h, hratio, hscale, hshift, hnone, hstep,
    Nat.shiftLeft_eq, pow_zero, Nat.mul_one, roundHalfEven_one]

/-- A natural number with no more binary digits than a significand is the nearest one to itself. -/
theorem ofInt_value {n : ℕ} (h : n < 2 ^ 53) : (ofInt n).value = n := by
  by_cases hzero : n = 0
  · subst hzero
    show ((0 : ℕ) : ℚ) * 2 ^ (-1074 : ℤ) = ((0 : ℕ) : ℚ)
    rw [Nat.cast_zero, zero_mul]
  have hlog : n.log2 < 53 := (Nat.log2_lt hzero).mpr h
  have hmagnitude := magnitudeOfRatio_natural hzero (by omega)
  have hlow := Nat.log2_self_le hzero
  have hhigh := Nat.lt_log2_self (n := n)
  generalize n.log2 = l at hlog hlow hhigh hmagnitude
  have hfull : 2 ^ 52 ≤ n * 2 ^ (52 - l) := by
    calc 2 ^ 52 = 2 ^ l * 2 ^ (52 - l) := by rw [← pow_add, Nat.add_sub_cancel' (by omega)]
      _ ≤ n * 2 ^ (52 - l) := Nat.mul_le_mul_right _ hlow
  have hfits : n * 2 ^ (52 - l) < 2 ^ 53 := by
    calc n * 2 ^ (52 - l) < 2 ^ (l + 1) * 2 ^ (52 - l) :=
          Nat.mul_lt_mul_of_pos_right hhigh (by positivity)
      _ = 2 ^ 53 := by rw [← pow_add, show l + 1 + (52 - l) = 53 by omega]
  have hback : (2 : ℚ) ^ (52 - l) * 2 ^ (((l + 1022 : ℕ) : ℤ) - 1074) = 1 := by
    rw [← zpow_natCast, ← zpow_add₀ (by norm_num),
      show ((52 - l : ℕ) : ℤ) + (((l + 1022 : ℕ) : ℤ) - 1074) = 0 by omega, zpow_zero]
  calc (ofInt n).value
      = (ofMagnitude false ((l + 1022) * fullSignificand + n * 2 ^ (52 - l))).value := by
        rw [← hmagnitude]
        rfl
    _ = (n * 2 ^ (52 - l) : ℕ) * 2 ^ (((l + 1022 : ℕ) : ℤ) - 1074) :=
        value_ofMagnitude hfull hfits (by omega) false
    _ = n := by
        push_cast at hback ⊢
        rw [mul_assoc, hback, mul_one]

/-- A power of ten whose power of five has at most as many binary digits as a significand. -/
theorem powerOfTen_value {n : ℕ} (h : n ≤ 22) : (powerOfTen n).value = 10 ^ n := by
  have hratio : ∀ n ≤ 22, (powerOfTen n).ratio.1 = 10 ^ n * (powerOfTen n).ratio.2 := by
    decide +kernel
  have hden : ((powerOfTen n).ratio.2 : ℚ) ≠ 0 := Nat.cast_ne_zero.mpr (ratio_den_ne_zero _)
  rw [← ratio_value, hratio n h, Nat.cast_mul, mul_div_cancel_right₀ _ hden]
  norm_num

/-- A number is scaled by such a power of ten in one step. -/
theorem exists_scaled (x : Binary64) {e : ℤ} (h : e.natAbs ≤ 22) :
    ∃ num den : ℕ, den ≠ 0 ∧ (num / den : ℚ) = x.value * 10 ^ e ∧
      x.scaled e = ofRatio x.negative num den := by
  have hsign (n : ℕ) : (x.negative != (powerOfTen n).negative) = x.negative :=
    Bool.xor_false x.negative
  by_cases hnonneg : 0 ≤ e
  · have hpower : (10 : ℚ) ^ e = (powerOfTen e.toNat).value := by
      rw [powerOfTen_value (by omega), ← zpow_natCast, Int.toNat_of_nonneg hnonneg]
    have hfinite : e ≤ maxPower := by
      simp only [maxPower]
      omega
    refine ⟨x.ratio.1 * (powerOfTen e.toNat).ratio.1, x.ratio.2 * (powerOfTen e.toNat).ratio.2,
      Nat.mul_ne_zero x.ratio_den_ne_zero (ratio_den_ne_zero _), ?_, ?_⟩
    · rw [hpower, ← ratio_value, ← ratio_value, Nat.cast_mul, Nat.cast_mul, mul_div_mul_comm]
    · rw [scaled, if_pos hnonneg, if_pos hfinite, times, hsign]
  · generalize hn : (-e).toNat = n
    have hvalue : (powerOfTen n).value = 10 ^ n := powerOfTen_value (by omega)
    have hpower : (10 : ℚ) ^ e = ((powerOfTen n).value)⁻¹ := by
      rw [hvalue, ← zpow_natCast, ← zpow_neg]
      congr 1
      omega
    have hnum : (powerOfTen n).ratio.1 ≠ 0 := by
      intro hnum
      have hzero := ratio_value (powerOfTen n)
      rw [hnum, Nat.cast_zero, zero_div, hvalue] at hzero
      exact pow_ne_zero n (by norm_num) hzero.symm
    have hturns : (n - 1) / maxPower = 0 ∧ (n - 1) % maxPower + 1 = n := by
      simp only [maxPower]
      omega
    refine ⟨x.ratio.1 * (powerOfTen n).ratio.2, x.ratio.2 * (powerOfTen n).ratio.1,
      Nat.mul_ne_zero x.ratio_den_ne_zero hnum, ?_, ?_⟩
    · rw [hpower, ← ratio_value, ← ratio_value, Nat.cast_mul, Nat.cast_mul, inv_div,
        mul_div_mul_comm]
    · rw [scaled, if_neg hnonneg]
      simp only [hn, hturns, divideOut, dividedBy, hsign]

/-- A decimal of few digits and a small exponent is read as the number nearest to it. -/
theorem ofParts_eq_ofDecimal {d : Decimal} (hdigits : d.digits < 2 ^ 53)
    (hexponent : d.exponent.natAbs ≤ 22) (negative : Bool) :
    ofParts negative d = ofDecimal negative d := by
  obtain ⟨num, den, hden, hvalue, hscaled⟩ := (ofInt d.digits).exists_scaled hexponent
  rw [ofInt_value hdigits] at hvalue
  have hparts : ofParts negative d = ofRatio negative num den := by
    rw [ofParts, hscaled]
    rfl
  have hratio : ofRatio negative num den = ofRatio negative d.ratio.1 d.ratio.2 := by
    refine ofRatio_congr negative hden d.ratio_den_ne_zero ?_
    rw [hvalue, Decimal.ratio_value, Decimal.value]
  by_cases hzero : d.digits = 0
  · have hnum : d.ratio.1 = 0 := by rw [Decimal.ratio, hzero, Nat.zero_mul]
    rw [hparts, hratio, ofRatio, hnum, magnitudeOfRatio_zero]
    simp [ofDecimal, hzero]
  · have hlength : Decimal.length d.digits ≤ 16 :=
      (Nat.length_toDigits_le_iff (by decide) (by decide)).mpr (by omega)
    have hpositive := Decimal.length_pos d.digits
    rw [hparts, hratio, ofDecimal_eq_ofRatio negative hzero (by omega) (by omega)]

/-- A decimal of seventeen digits may be read as a neighbour of the number nearest to it. -/
example : ofParts false ⟨51248178375505404, -15⟩ ≠ ofDecimal false ⟨51248178375505404, -15⟩ := by
  decide +kernel

end Binary64

end LiveForm
