import LiveForm.Json.Draft
import LiveForm.Json.Writing
import LiveForm.Proofs.Number.Rounding

/-!
# Numbers read back from their tokens

A number is written with the digits of its shortest decimal, and the point is put where it reads
best: behind the last digit, inside, in front of zeros, or behind the first digit with an exponent
after the others. Whichever form it is, the token spells a decimal of the same value
(`NumberStyle.spells_writeDecimal`), and what is read of it is the same wherever it stands
(`Draft.readValue_number`).

That need not be the number that was written. An integer is read as it is. Any other number is read
by `Binary64.ofParts`, which may miss the nearest number, and what was written is only the nearest
one to its decimal. `Number.Exact` is the property of the numbers that are read back, the sign of a
zero included; those with up to fifteen digits have it (`Number.exact_of_short`).

A token has no end of its own. It ends because no digit, point or exponent follows: what follows a
value in a written text is nothing, a comma or a closing bracket (`Draft.Follows`).
-/

namespace LiveForm

namespace Text

/-! ## Digits -/

/-- Digits and nothing else. -/
def Digits (cs : List Char) : Prop := ∀ c ∈ cs, c.isDigit = true

theorem Digits.append {cs ds : List Char} (hcs : Digits cs) (hds : Digits ds) :
    Digits (cs ++ ds) := by
  intro c hc
  rcases List.mem_append.mp hc with hc | hc
  · exact hcs c hc
  · exact hds c hc

theorem digits_toDigits (n : ℕ) : Digits (Nat.toDigits 10 n) :=
  fun _ hc => Nat.isDigit_of_mem_toDigits (by decide) (by decide) hc

theorem digits_zeros (n : ℕ) : Digits (List.replicate n '0') := by
  intro c hc
  rw [List.eq_of_mem_replicate hc]
  rfl

/-- Digits are read up to the first character that is none. -/
theorem spanDigits_append {ds rest : List Char} (hds : Digits ds)
    (hrest : ∀ c, rest.head? = some c → c.isDigit = false) :
    spanDigits (ds ++ rest) = (ds, rest) := by
  rw [spanDigits, List.takeWhile_append_of_pos hds, List.dropWhile_append_of_pos hds]
  cases rest with
  | nil => rw [List.takeWhile_nil, List.dropWhile_nil, List.append_nil]
  | cons c rest =>
    have hc : ¬ c.isDigit = true := by rw [hrest c rfl]; exact Bool.false_ne_true
    rw [List.takeWhile_cons_of_neg hc, List.dropWhile_cons_of_neg hc, List.append_nil]

theorem digitsValue_append (cs ds : List Char) :
    digitsValue (cs ++ ds) = 10 ^ ds.length * digitsValue cs + digitsValue ds := by
  show Nat.ofDigitChars 10 (cs ++ ds) 0 = _
  rw [Nat.ofDigitChars_append, Nat.ofDigitChars_eq_ofDigitChars_zero]
  rfl

theorem digitsValue_zeros (n : ℕ) : digitsValue (List.replicate n '0') = 0 :=
  Nat.ofDigitChars_replicate_zero

theorem digitsValue_toDigits (n : ℕ) : digitsValue (Nat.toDigits 10 n) = n :=
  Nat.ofDigitChars_ten_toDigits

theorem le_ofDigitChars (n : ℕ) (cs : List Char) : n ≤ Nat.ofDigitChars 10 cs n := by
  induction cs generalizing n with
  | nil => exact Nat.le_refl n
  | cons c cs ih =>
    calc n ≤ 10 * n + (c.toNat - '0'.toNat) := by omega
      _ ≤ Nat.ofDigitChars 10 cs (10 * n + (c.toNat - '0'.toNat)) := ih _

/-- All the digits of a number of 64 bits are taken. -/
theorem takeWord_eq {n : ℕ} {cs : List Char} (h : Nat.ofDigitChars 10 cs n < 2 ^ 64) :
    takeWord n cs = (Nat.ofDigitChars 10 cs n, []) := by
  induction cs generalizing n with
  | nil => rfl
  | cons c cs ih =>
    have hnext : 10 * n + (c.toNat - '0'.toNat) < 0x10000000000000000 :=
      Nat.lt_of_le_of_lt (le_ofDigitChars _ cs) h
    rw [takeWord]
    simp only [if_pos hnext]
    exact ih h

/-- The digits of a number do not start with a zero, unless it is zero. -/
theorem head_toDigits {n : ℕ} (hn : n ≠ 0) : (Nat.toDigits 10 n).head? ≠ some '0' := by
  induction n using Nat.strongRecOn with
  | ind n ih =>
    by_cases hsmall : n < 10
    · have hdigit : ∀ m < 10, m ≠ 0 → [Nat.digitChar m].head? ≠ some '0' := by decide
      rw [Nat.toDigits_of_lt_base hsmall]
      exact hdigit n hsmall hn
    · have hrest := ih (n / 10) (by omega) (by omega)
      rw [Nat.toDigits_of_base_le (by decide) (by omega),
        List.head?_append_of_ne_nil _ Nat.toDigits_ne_nil]
      exact hrest

/-- Digits before a point as a number has them: at least one, and no zero in front of others. -/
structure Whole (cs : List Char) : Prop where
  digits : Digits cs
  nonempty : cs ≠ []
  head : cs.length = 1 ∨ cs.head? ≠ some '0'

namespace Whole

theorem toDigits (n : ℕ) : Whole (Nat.toDigits 10 n) where
  digits := digits_toDigits n
  nonempty := Nat.toDigits_ne_nil
  head := by
    by_cases hn : n = 0
    · left
      rw [hn, Nat.toDigits_zero]
      rfl
    · exact .inr (head_toDigits hn)

/-- A digit by itself. -/
theorem singleton {c : Char} (hc : c.isDigit = true) : Whole [c] :=
  ⟨fun _ hd => List.mem_singleton.mp hd ▸ hc, List.cons_ne_nil c [], .inl rfl⟩

/-- Digits that start with a digit other than zero. -/
theorem of_head {cs : List Char} (hdigits : Digits cs) (hnonempty : cs ≠ [])
    (hhead : cs.head? ≠ some '0') : Whole cs :=
  ⟨hdigits, hnonempty, .inr hhead⟩

/-- The test that a reader of numbers makes. -/
theorem accepted {cs : List Char} (h : Whole cs) :
    ¬ (cs.isEmpty || (cs.length != 1 && cs.head? == some '0')) = true := by
  have hempty : cs.isEmpty = false := List.isEmpty_eq_false_iff.mpr h.nonempty
  rcases h.head with hone | hhead
  · simp [hempty, hone]
  · simp [hempty, hhead]

end Whole

end Text

open Text (Digits Whole)

/-- A decimal whose digits fit into a word loses none of them. -/
theorem Decimal.ofWord_eq {whole fraction : List Char} {e : ℤ}
    (h : (ofDigits whole fraction e).digits < 2 ^ 64) :
    ofWord whole fraction e = ofDigits whole fraction e := by
  have hsplit : Text.digitsValue (whole ++ fraction) =
      Nat.ofDigitChars 10 fraction (Text.digitsValue whole) := Nat.ofDigitChars_append ..
  have hall : Nat.ofDigitChars 10 fraction (Text.digitsValue whole) < 2 ^ 64 := by
    rw [← hsplit]
    exact h
  have hwhole : Text.takeWord 0 whole = (Text.digitsValue whole, []) :=
    Text.takeWord_eq (Nat.lt_of_le_of_lt (Text.le_ofDigitChars _ fraction) hall)
  simp only [ofWord, ofDigits, hwhole, Text.takeWord_eq hall, hsplit, List.length_nil]
  congr 1
  omega

namespace Draft

/-! ## Tokens -/

/-- What follows a value in a text that was written: nothing, a comma or a closing bracket. -/
def Follows (rest : List Char) : Prop :=
  ∀ c, rest.head? = some c → c = ',' ∨ c = ']' ∨ c = '\x7d'

theorem follows_nil : Follows [] := nofun

theorem follows_cons {c : Char} (h : c = ',' ∨ c = ']' ∨ c = '\x7d') (rest : List Char) :
    Follows (c :: rest) := by
  intro d hd
  rw [← Option.some.inj hd]
  exact h

theorem Follows.not_digit {rest : List Char} (h : Follows rest) :
    ∀ c, rest.head? = some c → c.isDigit = false := by
  intro c hc
  rcases h c hc with rfl | rfl | rfl <;> rfl

variable {whole fraction rest : List Char}

theorem readNumber_whole (hwhole : Whole whole) (hrest : Follows rest) (negative : Bool) :
    readNumber negative (whole ++ rest) = (ofToken negative (.ofWord whole [] 0) true, rest) := by
  simp only [readNumber, Text.spanDigits_append hwhole.digits hrest.not_digit,
    if_neg hwhole.accepted]
  cases rest with
  | nil => rfl
  | cons c rest => rcases hrest c rfl with rfl | rfl | rfl <;> rfl

theorem readNumber_point (hwhole : Whole whole) (hfraction : Digits fraction)
    (hsome : fraction ≠ []) (hrest : Follows rest) (negative : Bool) :
    readNumber negative (whole ++ '.' :: (fraction ++ rest)) =
      (ofToken negative (.ofWord whole fraction 0) false, rest) := by
  have hpoint : ∀ c, ('.' :: (fraction ++ rest)).head? = some c → c.isDigit = false := by
    rintro c ⟨⟩
    rfl
  have hempty : ¬ (true && fraction.isEmpty) = true := by
    rw [Bool.true_and, List.isEmpty_iff]
    exact hsome
  simp only [readNumber, Text.spanDigits_append hwhole.digits hpoint, if_neg hwhole.accepted,
    Text.spanDigits_append hfraction hrest.not_digit, if_neg hempty]
  cases rest with
  | nil => rfl
  | cons c rest => rcases hrest c rfl with rfl | rfl | rfl <;> rfl

/-- The exponent `e` as it is written, with what follows it. -/
def signed (e : ℤ) (rest : List Char) : List Char :=
  'e' :: (if e < 0 then '-' else '+') :: (Nat.toDigits 10 e.natAbs ++ rest)

theorem signed_not_digit (e : ℤ) (rest : List Char) :
    ∀ c, (signed e rest).head? = some c → c.isDigit = false := by
  rintro c ⟨⟩
  rfl

theorem exponent?_signed (e : ℤ) (hrest : Follows rest) :
    Text.exponent? (signed e rest) = some (e, rest) := by
  have hspan := Text.spanDigits_append (Text.digits_toDigits e.natAbs) hrest.not_digit
  have hempty : ¬ (Nat.toDigits 10 e.natAbs).isEmpty = true :=
    mt List.isEmpty_iff.mp Nat.toDigits_ne_nil
  by_cases hnegative : e < 0
  · simp only [signed, Text.exponent?, true_or, if_true, if_pos hnegative, Text.spanSign, hspan,
      if_neg hempty, Text.digitsValue_toDigits]
    congr 2
    omega
  · simp only [signed, Text.exponent?, true_or, if_true, if_neg hnegative, Text.spanSign, hspan,
      if_neg hempty, Text.digitsValue_toDigits]
    simp only [Bool.false_eq_true, if_false]
    congr 2
    omega

theorem readNumber_exponent (hwhole : Whole whole) (e : ℤ) (hrest : Follows rest)
    (negative : Bool) :
    readNumber negative (whole ++ signed e rest) =
      (ofToken negative (.ofWord whole [] e) false, rest) := by
  have hspan := Text.spanDigits_append hwhole.digits (signed_not_digit e rest)
  have hexponent := exponent?_signed e hrest
  obtain ⟨tail, htail⟩ : ∃ tail, signed e rest = 'e' :: tail := ⟨_, rfl⟩
  rw [htail] at hspan hexponent ⊢
  simp [readNumber, hspan, hwhole.accepted, hexponent]

theorem readNumber_point_exponent (hwhole : Whole whole) (hfraction : Digits fraction)
    (hsome : fraction ≠ []) (e : ℤ) (hrest : Follows rest) (negative : Bool) :
    readNumber negative (whole ++ '.' :: (fraction ++ signed e rest)) =
      (ofToken negative (.ofWord whole fraction e) false, rest) := by
  have hspan := Text.spanDigits_append hfraction (signed_not_digit e rest)
  have hexponent := exponent?_signed e hrest
  obtain ⟨tail, htail⟩ : ∃ tail, signed e rest = 'e' :: tail := ⟨_, rfl⟩
  rw [htail] at hspan hexponent ⊢
  have hpoint : ∀ c, ('.' :: (fraction ++ 'e' :: tail)).head? = some c → c.isDigit = false := by
    rintro c ⟨⟩
    rfl
  have hempty : ¬ (true && fraction.isEmpty) = true := by
    rw [Bool.true_and, List.isEmpty_iff]
    exact hsome
  simp only [readNumber, Text.spanDigits_append hwhole.digits hpoint, if_neg hwhole.accepted,
    hspan, if_neg hempty, hexponent]

/-- The characters are read as the digits of a decimal, so many of them as fit. -/
def Spells (cs : List Char) (d : Decimal) : Prop :=
  ∃ whole fraction e, Decimal.ofDigits whole fraction e = d ∧
    ∀ (negative : Bool) {rest : List Char}, Follows rest →
      readNumber negative (cs ++ rest) = (ofToken negative (.ofWord whole fraction e) false, rest)

end Draft

/-! ## Decimals -/

namespace NumberStyle

open Draft (Spells)

variable {d : Decimal}

/-- The point behind the last digit, and zeros between. -/
theorem spells_zeros_behind (hd : d.digits ≠ 0 ∨ d = ⟨0, 0⟩) (hexponent : 0 ≤ d.exponent) :
    Spells (json.writePositional (Nat.toDigits 10 d.digits) d.exponent)
      ⟨10 * (10 ^ d.exponent.toNat * d.digits), -1⟩ := by
  have hwhole := Whole.toDigits d.digits
  have hzeros : Whole (Nat.toDigits 10 d.digits ++ List.replicate d.exponent.toNat '0') := by
    rcases hd with hd | rfl
    · apply Whole.of_head (hwhole.digits.append (Text.digits_zeros _))
      · exact List.append_ne_nil_of_left_ne_nil hwhole.nonempty _
      · rw [List.head?_append_of_ne_nil _ hwhole.nonempty]
        exact Text.head_toDigits hd
    · rw [show List.replicate (Int.toNat 0) '0' = [] from rfl, List.append_nil]
      exact hwhole
  refine ⟨Nat.toDigits 10 d.digits ++ List.replicate d.exponent.toNat '0', ['0'], 0, ?_, ?_⟩
  · rw [Decimal.ofDigits, Text.digitsValue_append, Text.digitsValue_append,
      Text.digitsValue_zeros, List.length_replicate, Text.digitsValue_toDigits]
    rfl
  · intro negative rest hrest
    have hzero : Digits ['0'] := Text.digits_zeros 1
    have hread := Draft.readNumber_point hzeros hzero (List.cons_ne_nil _ _) hrest negative
    rw [writePositional, if_pos hexponent, ← hread]
    simp [json]

/-- The point among the digits. -/
theorem spells_point_inside (hexponent : d.exponent < 0)
    (hpoint : 0 < d.exponent + (Nat.toDigits 10 d.digits).length) :
    Spells (json.writePositional (Nat.toDigits 10 d.digits) d.exponent) d := by
  have hwhole := Whole.toDigits d.digits
  have hvalue := Text.digitsValue_toDigits d.digits
  generalize Nat.toDigits 10 d.digits = ds at hpoint hwhole hvalue
  have hposition : 0 < (d.exponent + ds.length).toNat := by omega
  rw [writePositional, if_neg (by omega)]
  simp only [if_pos hpoint]
  generalize hp : (d.exponent + ds.length).toNat = p at hposition
  have hlength : p < ds.length := by omega
  have htaken : Whole (ds.take p) := by
    refine ⟨fun c hc => hwhole.digits c (List.mem_of_mem_take hc), ?_, ?_⟩
    · rw [ne_eq, List.take_eq_nil_iff]
      rintro (hzero | hnil)
      · omega
      · exact hwhole.nonempty hnil
    · rcases hwhole.head with hone | hhead
      · omega
      · right
        rw [List.head?_take, if_neg (by omega)]
        exact hhead
  have hdropped : ds.drop p ≠ [] := by
    rw [ne_eq, List.drop_eq_nil_iff]
    omega
  have hdigits : Digits (ds.drop p) := fun c hc => hwhole.digits c (List.mem_of_mem_drop hc)
  refine ⟨ds.take p, ds.drop p, 0, ?_, ?_⟩
  · have hexp : (0 : ℤ) - (ds.length - p : ℕ) = d.exponent := by omega
    rw [Decimal.ofDigits, List.take_append_drop, List.length_drop, hvalue, hexp]
  · intro negative rest hrest
    rw [List.append_assoc, List.cons_append]
    exact Draft.readNumber_point htaken hdigits hdropped hrest negative

/-- The point in front of the digits, and zeros between. -/
theorem spells_zeros_ahead (hpoint : d.exponent + (Nat.toDigits 10 d.digits).length ≤ 0) :
    Spells (json.writePositional (Nat.toDigits 10 d.digits) d.exponent) d := by
  have hwhole := Whole.toDigits d.digits
  have hvalue := Text.digitsValue_toDigits d.digits
  generalize Nat.toDigits 10 d.digits = ds at hpoint hwhole hvalue
  have hsome := List.length_pos_of_ne_nil hwhole.nonempty
  rw [writePositional, if_neg (by omega)]
  simp only [if_neg (Int.not_lt.mpr hpoint)]
  generalize hn : (-(d.exponent + ds.length)).toNat = n
  refine ⟨['0'], List.replicate n '0' ++ ds, 0, ?_, ?_⟩
  · have hexp : (0 : ℤ) - (n + ds.length : ℕ) = d.exponent := by omega
    have hzero : Text.digitsValue ['0'] = 0 := rfl
    rw [Decimal.ofDigits, Text.digitsValue_append, Text.digitsValue_append, hzero,
      Text.digitsValue_zeros, hvalue, List.length_append, List.length_replicate, hexp]
    simp
  · intro negative rest hrest
    exact Draft.readNumber_point (Whole.singleton (c := '0') rfl)
      ((Text.digits_zeros n).append hwhole.digits)
      (List.append_ne_nil_of_right_ne_nil _ hwhole.nonempty) hrest negative

/-- One digit before the point, if there are others, and an exponent. -/
theorem spells_writeScientific (d : Decimal) :
    Spells (writeScientific (Nat.toDigits 10 d.digits) d.exponent) d := by
  have hdigits := Text.digits_toDigits d.digits
  have hvalue := Text.digitsValue_toDigits d.digits
  generalize hds : Nat.toDigits 10 d.digits = ds at hdigits hvalue
  cases ds with
  | nil => exact absurd hds Nat.toDigits_ne_nil
  | cons c fraction =>
    have hwhole : Whole [c] := Whole.singleton (hdigits c List.mem_cons_self)
    have hfraction : Digits fraction := fun a ha => hdigits a (List.mem_cons_of_mem _ ha)
    generalize he : d.exponent + ((c :: fraction).length : ℕ) - 1 = e
    refine ⟨[c], fraction, e, ?_, ?_⟩
    · have hexp : e - fraction.length = d.exponent := by
        rw [List.length_cons] at he
        omega
      rw [Decimal.ofDigits, List.singleton_append, hvalue, hexp]
    · intro negative rest hrest
      rw [writeScientific, he]
      cases fraction with
      | nil =>
        have hread := Draft.readNumber_exponent hwhole e hrest negative
        simpa [Draft.signed] using hread
      | cons a as =>
        have hread := Draft.readNumber_point_exponent hwhole hfraction (List.cons_ne_nil a as) e
          hrest negative
        simpa [Draft.signed] using hread

/-- The token of a decimal spells the decimal itself, or with zeros up to the point and one more. -/
theorem spells_writeDecimal (hd : d.digits ≠ 0 ∨ d = ⟨0, 0⟩) :
    Spells (json.writeDecimal d) d ∨
      0 ≤ d.exponent ∧
        Spells (json.writeDecimal d) ⟨10 * (10 ^ d.exponent.toNat * d.digits), -1⟩ := by
  rw [writeDecimal]
  split
  · by_cases hexponent : 0 ≤ d.exponent
    · exact .inr ⟨hexponent, spells_zeros_behind hd hexponent⟩
    · by_cases hpoint : 0 < d.exponent + (Nat.toDigits 10 d.digits).length
      · exact .inl (spells_point_inside (by omega) hpoint)
      · exact .inl (spells_zeros_ahead (by omega))
  · exact .inl (spells_writeScientific d)

/-- Whatever decimal is spelled for one with few digits, none of them far behind the point, it has
few digits and the same value. -/
theorem exists_spells_short (hd : d.digits ≠ 0 ∨ d = ⟨0, 0⟩)
    (hdigits : 10 * (10 ^ d.exponent.toNat * d.digits) < 2 ^ 53) (hexponent : -22 ≤ d.exponent) :
    ∃ d' : Decimal, Spells (json.writeDecimal d) d' ∧ d'.value = d.value ∧
      d'.digits < 2 ^ 53 ∧ d'.exponent.natAbs ≤ 22 := by
  have hfew : d.digits ≤ 10 ^ d.exponent.toNat * d.digits :=
    Nat.le_mul_of_pos_left _ (by positivity)
  have hnear : d.exponent ≤ 22 := by
    rcases hd with hd | rfl
    · by_contra hlarge
      have hpower : 10 ^ 23 ≤ 10 ^ d.exponent.toNat :=
        Nat.pow_le_pow_right (by decide) (by omega)
      have hproduct : 10 ^ d.exponent.toNat ≤ 10 ^ d.exponent.toNat * d.digits :=
        Nat.le_mul_of_pos_right _ (Nat.pos_of_ne_zero hd)
      omega
    · decide
  rcases spells_writeDecimal hd with h | ⟨hnonneg, h⟩
  · exact ⟨d, h, rfl, by omega, by omega⟩
  · exact ⟨_, h, Decimal.value_zeros_behind hnonneg, hdigits, Nat.one_le_ofNat⟩

end NumberStyle

/-! ## Numbers -/

namespace Draft

theorem skipSpace_cons {c : Char} (h : isSpace c = false) (cs : List Char) :
    skipSpace (c :: cs) = c :: cs := by
  apply List.dropWhile_cons_of_neg
  rw [h]
  exact Bool.false_ne_true

theorem isSpace_of_isDigit {c : Char} (h : c.isDigit = true) : isSpace c = false := by
  rw [Bool.eq_false_iff]
  intro hspace
  simp only [isSpace, Bool.or_eq_true, decide_eq_true_eq] at hspace
  rcases hspace with ((rfl | rfl) | rfl) | rfl <;> exact absurd h (by decide)

/-- A sign in front of digits is taken off. -/
theorem readValue_signed {cs : List Char} {c : Char} (hhead : cs.head? = some c)
    (hdigit : c.isDigit = true) (negative : Bool) (fuel level : ℕ) :
    readValue (fuel + 1) level ((if negative then ['-'] else []) ++ cs) = readNumber negative cs := by
  cases negative with
  | true =>
    show readValue (fuel + 1) level ('-' :: cs) = _
    rw [readValue]
    rfl
  | false =>
    obtain ⟨rest, rfl⟩ : ∃ rest, cs = c :: rest := List.head?_eq_some_iff.mp hhead
    simp only [Bool.false_eq_true, if_false, List.nil_append, readValue,
      skipSpace_cons (isSpace_of_isDigit hdigit)]
    -- A digit is none of the characters that another value starts with.
    split <;> first | exact absurd hdigit (by decide) | rw [if_pos hdigit]

/-- An integer is read from its digits as it is. -/
theorem ofToken_int (n : ℤ) (fits : -0x8000000000000000 ≤ n ∧ n < 0x10000000000000000) :
    ofToken (decide (n < 0)) ⟨n.natAbs, 0⟩ true = .num (.int n fits) := by
  have hvalue : (if decide (n < 0) = true then -(n.natAbs : ℤ) else n.natAbs) = n := by
    by_cases hn : n < 0
    · rw [if_pos (decide_eq_true hn)]
      omega
    · rw [if_neg (by simpa using hn)]
      omega
  have hzero : (true && (0 : ℤ) == 0 && !(decide (n < 0) && n.natAbs == 0)) = true := by
    simp only [beq_self_eq_true, Bool.true_and, Bool.not_eq_true', Bool.and_eq_false_iff,
      decide_eq_false_iff_not, beq_eq_false_iff_ne]
    omega
  simp only [ofToken, hvalue, hzero, if_true, Number.ofInt?, dif_pos fits]

/-- A token is a number, or it is well formed and no number. -/
theorem ofToken_cases (negative : Bool) (d : Decimal) (whole : Bool) :
    (∃ n, ofToken negative d whole = .num n) ∨ ofToken negative d whole = .unusable := by
  simp only [ofToken]
  split
  · exact .inl ⟨_, rfl⟩
  · split
    · exact .inl ⟨_, rfl⟩
    · exact .inr rfl

/-- The token of a number that is finite is the sign and the shortest decimal. -/
theorem chars_float {x : Binary64} (finite : x.isFinite = true) :
    (Number.float x finite).chars = (if x.negative then ['-'] else []) ++
      NumberStyle.json.writeDecimal (x.shortest .even) := by
  have hfinite : x.magnitude < Binary64.infinite := of_decide_eq_true finite
  have hnan : ¬ x.isNaN = true := by
    rw [Binary64.isNaN, decide_eq_true_eq]
    omega
  have hinfinite : ¬ x.isInfinite = true := by
    rw [Binary64.isInfinite, beq_iff_eq]
    omega
  simp [Number.chars, NumberStyle.write, hnan, hinfinite, NumberStyle.json]

/-- The token of a decimal that is not negative starts with a digit. -/
theorem head_writeDecimal (d : Decimal) :
    ∃ c rest, NumberStyle.json.writeDecimal d = c :: rest ∧ c.isDigit = true := by
  have hdigits := Text.digits_toDigits d.digits
  obtain ⟨c, cs, hds⟩ := List.exists_cons_of_ne_nil (Nat.toDigits_ne_nil (n := d.digits) (b := 10))
  have hc : c.isDigit = true := hdigits c (hds ▸ List.mem_cons_self)
  rw [NumberStyle.writeDecimal, hds]
  split
  · rw [NumberStyle.writePositional]
    split
    · exact ⟨c, _, rfl, hc⟩
    · split
      · rename_i hpoint
        obtain ⟨p, hp⟩ : ∃ p, (d.exponent + ((c :: cs).length : ℕ)).toNat = p + 1 :=
          ⟨(d.exponent + ((c :: cs).length : ℕ)).toNat - 1, by omega⟩
        rw [hp]
        exact ⟨c, _, rfl, hc⟩
      · exact ⟨'0', _, rfl, rfl⟩
  · rw [NumberStyle.writeScientific]
    cases cs with
    | nil => exact ⟨c, _, rfl, hc⟩
    | cons a as => exact ⟨c, _, rfl, hc⟩

/-- The draft of the token of a number. -/
def ofNumber (n : Number) : Draft := (readValue 1 0 n.chars).1

theorem ofNumber_eq {n : Number} {d : Draft} (h : readValue 1 0 (n.chars ++ []) = (d, [])) :
    ofNumber n = d := by
  rw [List.append_nil] at h
  rw [ofNumber, h]

/-- Digits without a point are read as the integer that they were written for. -/
theorem readValue_int (n : ℤ) (fits : -0x8000000000000000 ≤ n ∧ n < 0x10000000000000000)
    {rest : List Char} (hrest : Follows rest) (fuel level : ℕ) :
    readValue (fuel + 1) level ((Number.int n fits).chars ++ rest) =
      (.num (.int n fits), rest) := by
  have hwhole := Whole.toDigits n.natAbs
  have hsign : (if n < 0 then ['-'] else []) =
      (if decide (n < 0) = true then ['-'] else []) := by simp only [decide_eq_true_eq]
  have hdigits : Decimal.ofDigits (Nat.toDigits 10 n.natAbs) [] 0 = ⟨n.natAbs, 0⟩ := by
    rw [Decimal.ofDigits, List.append_nil, Text.digitsValue_toDigits]
    rfl
  have hdecimal : Decimal.ofWord (Nat.toDigits 10 n.natAbs) [] 0 = ⟨n.natAbs, 0⟩ := by
    rw [Decimal.ofWord_eq, hdigits]
    rw [hdigits]
    show n.natAbs < 2 ^ 64
    omega
  obtain ⟨c, cs, hds⟩ := List.exists_cons_of_ne_nil hwhole.nonempty
  have hhead : (Nat.toDigits 10 n.natAbs ++ rest).head? = some c := by
    rw [hds]
    rfl
  have hdigit : c.isDigit = true := hwhole.digits c (hds ▸ List.mem_cons_self)
  rw [Number.chars, List.append_assoc, hsign, readValue_signed hhead hdigit,
    readNumber_whole hwhole hrest, hdecimal, ofToken_int n fits]

/-- A finite number is read by the decimal that its token spells. -/
theorem readValue_float {x : Binary64} (finite : x.isFinite = true) {d : Decimal}
    (hspells : Spells (NumberStyle.json.writeDecimal (x.shortest .even)) d) :
    ∃ whole fraction e, Decimal.ofDigits whole fraction e = d ∧
      ∀ {rest : List Char}, Follows rest → ∀ fuel level : ℕ,
        readValue (fuel + 1) level ((Number.float x finite).chars ++ rest) =
          (ofToken x.negative (.ofWord whole fraction e) false, rest) := by
  obtain ⟨whole, fraction, e, hdecimal, hread⟩ := hspells
  refine ⟨whole, fraction, e, hdecimal, fun {rest} hrest fuel level => ?_⟩
  obtain ⟨c, cs, hchars, hdigit⟩ := head_writeDecimal (x.shortest .even)
  have hhead : (NumberStyle.json.writeDecimal (x.shortest .even) ++ rest).head? = some c := by
    rw [hchars]
    rfl
  rw [chars_float finite, List.append_assoc, readValue_signed hhead hdigit, hread _ hrest]

theorem ofNumber_int (n : ℤ) (fits : -0x8000000000000000 ≤ n ∧ n < 0x10000000000000000) :
    ofNumber (.int n fits) = .num (.int n fits) :=
  ofNumber_eq (readValue_int n fits follows_nil 0 0)

theorem ofNumber_float {x : Binary64} (finite : x.isFinite = true) {d : Decimal}
    (hspells : Spells (NumberStyle.json.writeDecimal (x.shortest .even)) d) :
    ∃ whole fraction e, Decimal.ofDigits whole fraction e = d ∧
      ofNumber (.float x finite) = ofToken x.negative (.ofWord whole fraction e) false := by
  obtain ⟨whole, fraction, e, hdecimal, hread⟩ := readValue_float finite hspells
  exact ⟨whole, fraction, e, hdecimal, ofNumber_eq (hread follows_nil 0 0)⟩

/-- The token of every finite number spells some decimal. -/
theorem exists_spells {x : Binary64} (finite : x.isFinite = true) :
    ∃ d, Spells (NumberStyle.json.writeDecimal (x.shortest .even)) d := by
  rcases NumberStyle.spells_writeDecimal (Binary64.shortest_digits finite .even) with h | ⟨-, h⟩
  · exact ⟨_, h⟩
  · exact ⟨_, h⟩

/-- What is read of the token of a number does not depend on where it stands. -/
theorem readValue_number (n : Number) {rest : List Char} (hrest : Follows rest)
    (fuel level : ℕ) : readValue (fuel + 1) level (n.chars ++ rest) = (ofNumber n, rest) := by
  cases n with
  | int n fits => rw [readValue_int n fits hrest, ofNumber_int]
  | float x finite =>
    obtain ⟨d, hspells⟩ := exists_spells finite
    obtain ⟨whole, fraction, e, -, hread⟩ := readValue_float finite hspells
    rw [hread hrest, ofNumber_eq (hread follows_nil 0 0)]

/-- The token of a number is read as a number, or it is well formed and none. -/
theorem ofNumber_cases (n : Number) : (∃ m, ofNumber n = .num m) ∨ ofNumber n = .unusable := by
  cases n with
  | int n fits => exact .inl ⟨_, ofNumber_int n fits⟩
  | float x finite =>
    obtain ⟨d, hspells⟩ := exists_spells finite
    obtain ⟨whole, fraction, e, -, hread⟩ := ofNumber_float finite hspells
    rw [hread]
    exact ofToken_cases _ _ _

end Draft

/-- The number is read back from its token. -/
def Number.Exact (n : Number) : Prop := Draft.ofNumber n = .num n

namespace Number

theorem exact_int (n : ℤ) (fits : -0x8000000000000000 ≤ n ∧ n < 0x10000000000000000) :
    (Number.int n fits).Exact :=
  Draft.ofNumber_int n fits

/-- A number with few digits, none of them far behind the point, is read back. -/
theorem exact_of_short {x : Binary64} (finite : x.isFinite = true)
    (hdigits : 10 * (10 ^ (x.shortest .even).exponent.toNat * (x.shortest .even).digits) < 2 ^ 53)
    (hexponent : -22 ≤ (x.shortest .even).exponent) : (Number.float x finite).Exact := by
  have hvalue := Binary64.ofDecimal_shortest finite .even
  have hzero := Binary64.shortest_digits finite .even
  generalize hd : x.shortest .even = d at hdigits hexponent hvalue hzero
  obtain ⟨d', hspells, hsame, hfew, hnear⟩ :=
    NumberStyle.exists_spells_short hzero hdigits hexponent
  rw [← hd] at hspells
  obtain ⟨whole, fraction, e, hdecimal, hread⟩ := Draft.ofNumber_float finite hspells
  have hword : Decimal.ofWord whole fraction e = d' := by
    rw [Decimal.ofWord_eq, hdecimal]
    rw [hdecimal]
    omega
  have hnearest : Binary64.ofParts x.negative d' = x := by
    rw [Binary64.ofParts_eq_ofDecimal hfew hnear, Binary64.ofDecimal_congr _ hsame, hvalue]
  rw [Exact, hread, hword]
  simp only [Draft.ofToken, Bool.false_and, Bool.false_eq_true, if_false, hnearest,
    Number.ofBinary64?, dif_pos finite]

end Number

end LiveForm
