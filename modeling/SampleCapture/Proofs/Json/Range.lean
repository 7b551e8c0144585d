import SampleCapture.Proofs.Json.Double
import SampleCapture.Proofs.Json.Reading

/-!
# Numbers that can be read

A number that is no integer of 64 bits is scaled in the arithmetic of doubles. Its rounding errors
are small: only a number close to the end of the range of doubles, or one with a huge exponent,
has no value.
-/

namespace SampleCapture.Json

def Digits.value (digits : Digits) : ℕ :=
  Nat.ofDigitChars 10 digits.chars 0

def Exponent.power (exponent : Exponent) : ℤ :=
  if exponent.sign = some true then -exponent.digits.value else exponent.digits.value

/-- Five doubles below the greatest one. -/
def safeLimit : ℚ := (2 ^ 53 - 6) * 2 ^ 971

namespace Numeral

/-- The exact size of the number without its exponent. -/
def mantissa (numeral : Numeral) : ℚ :=
  numeral.whole +
    numeral.fraction.elim 0 fun digits => (digits.value : ℚ) / 10 ^ digits.chars.length

def size (numeral : Numeral) : ℚ :=
  numeral.mantissa * 10 ^ numeral.exponent.elim 0 Exponent.power

/-- The number is below the last doubles, and its exponent is one of 32 bits or below these. -/
structure Moderate (numeral : Numeral) : Prop where
  size_le : numeral.size ≤ safeLimit
  power_lt : ∀ exponent, numeral.exponent = some exponent → exponent.power < 2 ^ 31

end Numeral

namespace Number

/-! ## Digits that are gathered -/

structure Gathered (digits : List Char) (start significand dropped : ℕ) : Prop where
  word : significand < 2 ^ 64
  dropped_le : dropped ≤ digits.length
  start_of_eq : dropped = digits.length → significand = start
  below : significand * 10 ^ dropped ≤ Nat.ofDigitChars 10 digits start
  full : dropped ≠ 0 → 2 ^ 64 * 10 ^ dropped ≤ 10 * Nat.ofDigitChars 10 digits start

theorem gathered {start : ℕ} (digits : List Char) (word : start < 2 ^ 64) :
    Gathered digits start (gather digits start).1 (gather digits start).2 := by
  induction digits generalizing start with
  | nil =>
      exact ⟨word, Nat.le_refl _, fun _ => rfl, by simp [gather], fun left => absurd rfl left⟩
  | cons digit digits ih =>
      have next : start * 10 + digitValue digit = 10 * start + (digit.toNat - '0'.toNat) := by
        rw [digitValue, Nat.mul_comm]
      have size : UInt64.size = 2 ^ 64 := rfl
      rw [gather]
      simp only [next, size]
      split
      · rename_i fits
        obtain ⟨word, dropped_le, -, below, full⟩ := ih fits
        rw [← Nat.ofDigitChars_cons] at below full
        refine ⟨word, Nat.le_succ_of_le dropped_le, fun all => ?_, below, full⟩
        rw [all] at dropped_le
        exact absurd dropped_le (Nat.not_succ_le_self _)
      · rename_i large
        have whole : Nat.ofDigitChars 10 (digit :: digits) start =
            10 ^ digits.length * (10 * start + (digit.toNat - '0'.toNat)) +
              Nat.ofDigitChars 10 digits 0 := by
          rw [Nat.ofDigitChars_cons, Nat.ofDigitChars_eq_ofDigitChars_zero]
        refine ⟨word, Nat.le_refl _, fun _ => rfl, ?_, fun _ => ?_⟩
        · calc start * 10 ^ (digits.length + 1) = 10 ^ digits.length * (10 * start) := by ring
            _ ≤ 10 ^ digits.length * (10 * start + (digit.toNat - '0'.toNat)) :=
                Nat.mul_le_mul_left _ (Nat.le_add_right _ _)
            _ ≤ Nat.ofDigitChars 10 (digit :: digits) start := by omega
        · calc 2 ^ 64 * 10 ^ (digits.length + 1) = 10 * (10 ^ digits.length * 2 ^ 64) := by ring
            _ ≤ 10 * (10 ^ digits.length * (10 * start + (digit.toNat - '0'.toNat))) :=
                Nat.mul_le_mul_left _ (Nat.mul_le_mul_left _ (Nat.not_lt.mp large))
            _ ≤ 10 * Nat.ofDigitChars 10 (digit :: digits) start := by omega

theorem natural_eq (digits : List Char) : natural digits = Nat.ofDigitChars 10 digits 0 := by
  rw [natural, Nat.ofDigitChars_eq_foldl]
  congr 1
  funext value digit
  rw [digitValue, Nat.mul_comm]

/-! ## Scaling -/

theorem safeLimit_mul_growth_lt : safeLimit * growth ^ 3 < 2 ^ 1024 := by
  have grown : ((2 ^ 53 - 6) * growth ^ 3 : ℚ) < 2 ^ 53 := by norm_num [growth]
  calc safeLimit * growth ^ 3 = (2 ^ 53 - 6) * growth ^ 3 * 2 ^ 971 := mul_right_comm ..
    _ < 2 ^ 53 * 2 ^ 971 := mul_lt_mul_of_pos_right grown (by positivity)
    _ = 2 ^ 1024 := (pow_add 2 53 971).symm

theorem safeLimit_lt : safeLimit < 2 ^ 1024 := by
  refine (le_mul_of_one_le_right ?_ ?_).trans_lt safeLimit_mul_growth_lt
  · exact mul_nonneg (by norm_num) (by positivity)
  · exact one_le_pow₀ (by norm_num [growth])

theorem scale_isSome_of_neg (x : Float) {shift : ℤ} (down : shift < 0) :
    (scale x shift).isSome := by
  fun_induction scale x shift with
  | case1 => omega
  | case2 => omega
  | case3 => rfl
  | case4 => rfl
  | case5 => omega
  | case6 x shift far _ _ ih => exact ih (by omega)

/-- The arithmetic of doubles does not leave their range. -/
theorem isInf_scaled {n places : ℕ} (word : n < 2 ^ 64) (fits : places ≤ 308)
    (below : (n * 10 ^ places : ℚ) ≤ safeLimit) :
    (n.toUInt64.toFloat * powerOfTen places).isInf = false := by
  by_cases zero : n = 0
  · rw [zero]
    exact isInf_zero_mul (sized_powerOfTen fits)
  · refine isInf_mul (sized_toFloat zero word) (sized_powerOfTen fits) ?_
    calc (n * growth * (10 ^ places * growth) * growth : ℚ)
        = n * 10 ^ places * growth ^ 3 := by ring
      _ ≤ safeLimit * growth ^ 3 :=
          mul_le_mul_of_nonneg_right below (by unfold growth; positivity)
      _ < 2 ^ 1024 := safeLimit_mul_growth_lt

theorem scale_isSome {n : ℕ} {shift : ℤ} (word : n < 2 ^ 64)
    (below : (n * 10 ^ shift : ℚ) ≤ safeLimit) :
    (scale n.toUInt64.toFloat shift).isSome := by
  by_cases down : shift < 0
  · exact scale_isSome_of_neg _ down
  obtain ⟨places, rfl⟩ := Int.eq_ofNat_of_zero_le (Int.not_lt.mp down)
  rw [zpow_natCast] at below
  rw [scale]
  by_cases fits : places ≤ 308
  · rw [if_pos (by simpa using fits), if_pos (Int.natCast_nonneg places)]
    simp only [Int.natAbs_natCast, isInf_scaled word fits below]
    rfl
  · have zero : n = 0 := by
      by_contra nonzero
      refine absurd below (not_le.mpr ?_)
      have beyond : (2 ^ 1024 : ℚ) < 10 ^ 309 := by
        exact_mod_cast (by decide +kernel : 2 ^ 1024 < 10 ^ 309)
      calc safeLimit < 2 ^ 1024 := safeLimit_lt
        _ < 1 * 10 ^ 309 := by rwa [one_mul]
        _ ≤ n * 10 ^ places :=
            mul_le_mul (by exact_mod_cast Nat.pos_of_ne_zero nonzero)
              (pow_le_pow_right₀ (by norm_num) (by omega)) (by positivity) (by positivity)
    subst zero
    have nothing : ((0 : ℕ).toUInt64.toFloat == 0.0) = true := rfl
    rw [if_neg (by simpa using fits), if_pos nothing]
    rfl

theorem double_isSome {negative : Bool} {significand : ℕ} {shift : ℤ} {exponent : Option Exponent}
    (word : significand < 2 ^ 64)
    (fits : ∀ given, exponent = some given → given.power < 2 ^ 31)
    (below : (significand * 10 ^ shift * 10 ^ exponent.elim 0 Exponent.power : ℚ) ≤ safeLimit) :
    (double negative significand shift (exponent.map Exponent.part)).isSome := by
  rw [mul_assoc, ← zpow_add₀ (by norm_num)] at below
  cases exponent with
  | none =>
      rw [Option.elim_none, add_zero] at below
      rw [Option.map_none, double, Option.isSome_map]
      exact scale_isSome word below
  | some given =>
      have small := fits given rfl
      rw [Option.elim_some, Exponent.power, Digits.value, ← natural_eq] at below
      rw [Exponent.power, Digits.value, ← natural_eq] at small
      rw [Option.map_some, Exponent.part, double]
      by_cases down : given.sign = some true
      · rw [if_pos down, ← sub_eq_add_neg] at below
        simp only [down, BEq.rfl, ↓reduceIte, Bool.not_true, Bool.and_false, Bool.false_eq_true]
        split
        · rfl
        · rw [Option.isSome_map]
          exact scale_isSome word below
      · rw [if_neg down] at below small
        have limit : ¬exponentLimit < natural given.digits.chars := by
          change ¬2 ^ 31 - 1 < _
          omega
        have up : (given.sign == some true) = false := beq_false_of_ne down
        simp only [up, if_neg limit, Bool.false_eq_true, ↓reduceIte, Option.isSome_map]
        exact scale_isSome word below

/-! ## The size of what is gathered -/

variable {whole fraction : List Char} {significand dropped all ignored : ℕ}

/-- Fraction digits behind a whole part that has been gathered up to its end. -/
theorem fraction_le_of_whole (before : significand ≤ Nat.ofDigitChars 10 whole 0)
    (behind : Gathered fraction significand all ignored) :
    (all * 10 ^ (-(fraction.length - ignored : ℕ) : ℤ) : ℚ) ≤
      Nat.ofDigitChars 10 whole 0 + Nat.ofDigitChars 10 fraction 0 / 10 ^ fraction.length := by
  have digits : all * 10 ^ ignored ≤
      10 ^ fraction.length * Nat.ofDigitChars 10 whole 0 + Nat.ofDigitChars 10 fraction 0 := by
    have read := behind.below
    rw [Nat.ofDigitChars_eq_ofDigitChars_zero] at read
    exact read.trans (Nat.add_le_add_right (Nat.mul_le_mul_left _ before) _)
  have scaled : (all * 10 ^ ignored : ℚ) ≤
      10 ^ fraction.length * Nat.ofDigitChars 10 whole 0 + Nat.ofDigitChars 10 fraction 0 := by
    exact_mod_cast digits
  obtain ⟨places, length⟩ := Nat.exists_eq_add_of_le behind.dropped_le
  rw [length, Nat.add_sub_cancel_left, ← length]
  calc (all * 10 ^ (-places : ℤ) : ℚ) = all * 10 ^ ignored / 10 ^ fraction.length := by
        rw [length, pow_add, zpow_neg, zpow_natCast]
        field_simp
    _ ≤ (10 ^ fraction.length * Nat.ofDigitChars 10 whole 0 + Nat.ofDigitChars 10 fraction 0) /
          10 ^ fraction.length := div_le_div_of_nonneg_right scaled (by positivity)
    _ = Nat.ofDigitChars 10 whole 0 + Nat.ofDigitChars 10 fraction 0 / 10 ^ fraction.length := by
        rw [add_div, mul_div_cancel_left₀ _ (by positivity)]

/-- Fraction digits behind a whole part that is too long take the place of greater ones. -/
theorem fraction_le_of_dropped (before : Gathered whole 0 significand dropped)
    (long : dropped ≠ 0) (behind : Gathered fraction significand all ignored) :
    (all * 10 ^ ((dropped : ℤ) - (fraction.length - ignored : ℕ)) : ℚ) ≤
      Nat.ofDigitChars 10 whole 0 := by
  obtain ⟨places, length⟩ := Nat.exists_eq_add_of_le behind.dropped_le
  rw [length, Nat.add_sub_cancel_left]
  cases places with
  | zero =>
      obtain rfl := behind.start_of_eq length.symm
      rw [Nat.cast_zero, sub_zero, zpow_natCast]
      exact_mod_cast before.below
  | succ places =>
      have full : (2 ^ 64 * 10 ^ dropped : ℚ) ≤ 10 * Nat.ofDigitChars 10 whole 0 := by
        exact_mod_cast before.full long
      have word : (all : ℚ) ≤ 2 ^ 64 := by exact_mod_cast behind.word.le
      rw [zpow_sub₀ (by norm_num), zpow_natCast, zpow_natCast, ← mul_div_assoc,
        div_le_iff₀ (by positivity), pow_succ]
      calc (all * 10 ^ dropped : ℚ) ≤ 2 ^ 64 * 10 ^ dropped :=
            mul_le_mul_of_nonneg_right word (by positivity)
        _ ≤ 10 * Nat.ofDigitChars 10 whole 0 := full
        _ = Nat.ofDigitChars 10 whole 0 * (1 * 10) := by ring
        _ ≤ Nat.ofDigitChars 10 whole 0 * (10 ^ places * 10) := by
            gcongr
            exact one_le_pow₀ (by norm_num)

theorem fraction_le (before : Gathered whole 0 significand dropped)
    (behind : Gathered fraction significand all ignored) :
    (all * 10 ^ ((dropped : ℤ) - (fraction.length - ignored : ℕ)) : ℚ) ≤
      Nat.ofDigitChars 10 whole 0 + Nat.ofDigitChars 10 fraction 0 / 10 ^ fraction.length := by
  by_cases long : dropped = 0
  · subst long
    have start : significand ≤ Nat.ofDigitChars 10 whole 0 := by
      simpa only [pow_zero, mul_one] using before.below
    rw [Nat.cast_zero, zero_sub]
    exact fraction_le_of_whole start behind
  · exact (fraction_le_of_dropped before long behind).trans
      (le_add_of_nonneg_right (by positivity))

end Number

namespace Numeral

theorem double_isSome {numeral : Numeral} {significand : ℕ} (moderate : Moderate numeral)
    (word : significand < 2 ^ 64) (shift : ℤ)
    (below : (significand * 10 ^ shift : ℚ) ≤ numeral.mantissa) :
    (Number.double numeral.negative significand shift
      (numeral.exponent.map Exponent.part)).isSome := by
  refine Number.double_isSome word moderate.power_lt (le_trans ?_ moderate.size_le)
  exact mul_le_mul_of_nonneg_right below (by positivity)

/-- An integer of 64 bits has a value. -/
theorem value_isSome_of_lt (negative : Bool) {whole : ℕ} (fits : whole < UInt64.size) :
    (parts ⟨negative, whole, none, none⟩).value.isSome := by
  cases negative with
  | false =>
      rw [value_positive fits]
      rfl
  | true =>
      rw [value_negative fits]
      split <;> rfl

/-- A moderate number has a value. -/
theorem Moderate.value_isSome {numeral : Numeral} (moderate : Moderate numeral) :
    numeral.parts.value.isSome := by
  obtain ⟨negative, whole, fraction, exponent⟩ := numeral
  have before := Number.gathered (Nat.toDigits 10 whole) (by norm_num : 0 < 2 ^ 64)
  have left (large : UInt64.size ≤ whole) := Number.gather_toDigits_of_le large
  generalize taken : Number.gather (Nat.toDigits 10 whole) 0 = leading at before left
  obtain ⟨significand, dropped⟩ := leading
  have digits : Nat.ofDigitChars 10 (Nat.toDigits 10 whole) 0 = whole :=
    Nat.ofDigitChars_ten_toDigits
  cases fraction with
  | none =>
      have below : (significand * 10 ^ (dropped : ℤ) : ℚ) ≤ whole := by
        have read := before.below
        rw [digits] at read
        exact_mod_cast read
      have double := double_isSome moderate before.word dropped (by simpa [mantissa] using below)
      cases exponent with
      | none =>
          by_cases fits : whole < UInt64.size
          · exact value_isSome_of_lt negative fits
          · obtain ⟨others, rfl⟩ := Nat.exists_eq_succ_of_ne_zero (left (Nat.not_lt.mp fits))
            rw [Number.Parts.value, parts, taken]
            exact (Option.isSome_map ..).trans double
      | some exponent =>
          rw [Number.Parts.value, parts, taken]
          exact (Option.isSome_map ..).trans double
  | some fraction =>
      have behind := Number.gathered fraction.chars before.word
      have below := Number.fraction_le before behind
      rw [digits] at below
      have double := double_isSome moderate behind.word _ below
      rw [Number.Parts.value, parts, taken]
      exact (Option.isSome_map ..).trans double

end Numeral

end SampleCapture.Json
