import SampleCapture.Json.Number
import SampleCapture.Proofs.Decimal.Double

/-!
# The size of doubles

A number that is rounded to a double becomes greater by one part in `2 ^ 52` at most, so that the
product of two doubles is only infinite if their exact product is close to the end of the range.
-/

namespace SampleCapture.Json

open Decimal
open Float.Model (Format UnpackedFloat)
open Float.Model.UnpackedFloat

/-- A normal double from one on, up to some size. -/
inductive Sized (size : ℚ) : UnpackedFloat → Prop
  | intro {sign : Sign} {mantissa : ℕ} {exponent : ℤ} (positive : 0 < mantissa)
      (low : 2 ^ 52 ≤ mantissa) (high : mantissa < 2 ^ 53) (one : -52 ≤ exponent)
      (below : mantissa * 2 ^ exponent ≤ size) :
      Sized size (.finite sign mantissa exponent positive)

/-- How many times greater a number can become when it is rounded. -/
def growth : ℚ := 1 + 1 / 2 ^ 52

/-! ## Rounding -/

theorem Sized.of_normal {sign : Sign} {x size : ℚ} {double : UnpackedFloat}
    (normal : Normal sign x double) (one : 1 ≤ x) (le : x ≤ size) : Sized size double := by
  obtain ⟨positive, low, high, -, rfl⟩ := normal
  exact .intro positive low high (le_exponent high one) le

/-- Bits that are rounded away are a small part of the number. -/
theorem roundDiv_mul_le {n places : ℕ} (bits : 2 ^ (52 + places) ≤ n) :
    (roundDiv n (2 ^ places) * 2 ^ places : ℚ) ≤ n * growth := by
  have unit : (0 : ℚ) < 2 ^ places := by positivity
  have scaled : (2 ^ 52 * 2 ^ places : ℚ) ≤ n := by
    rw [← pow_add]
    exact_mod_cast bits
  have near := (abs_le.mp (nearest_roundDiv n (Nat.two_pow_pos places)).near).2
  rw [Nat.cast_pow, Nat.cast_ofNat, sub_le_iff_le_add'] at near
  calc (roundDiv n (2 ^ places) * 2 ^ places : ℚ)
      ≤ (n / 2 ^ places + 1 / 2) * 2 ^ places := mul_le_mul_of_nonneg_right near unit.le
    _ = n + 2 ^ places / 2 := by rw [add_mul, div_mul_cancel₀ _ unit.ne', one_div_mul_eq_div]
    _ ≤ n * growth := by
        rw [growth]
        linarith

/-- A number from one on that has enough bits grows little when it is rounded. -/
theorem sized_roundWithAccuracy (sign : Sign) {mantissa : ℕ} {exponent : ℤ} {size : ℚ}
    (bits : 52 ≤ mantissa.log2) (one : 0 ≤ mantissa.log2 + exponent)
    (below : mantissa * 2 ^ exponent * growth ≤ size) :
    Sized size (roundWithAccuracy .binary64 sign mantissa exponent .exact) := by
  have nonzero := ne_zero_of_log2_pos (n := mantissa) (by omega)
  have largest := Nat.log2_self_le nonzero
  obtain ⟨places, log⟩ := Nat.exists_eq_add_of_le bits
  rw [log] at largest
  have low := (roundDiv_log2 nonzero log).1
  refine .of_normal (normal_roundWithAccuracy sign log (by omega)) ?_ (le_trans ?_ below)
  · calc (1 : ℚ) = (2 ^ 52 : ℕ) * 2 ^ (-52 : ℤ) := by norm_num
      _ ≤ roundDiv mantissa (2 ^ places) * 2 ^ (exponent + places) := by
          have least : -52 ≤ exponent + places := by omega
          gcongr
          exact one_le_two
  · calc (roundDiv mantissa (2 ^ places) * 2 ^ (exponent + places) : ℚ)
        = roundDiv mantissa (2 ^ places) * 2 ^ places * 2 ^ exponent := by
          rw [zpow_add₀ two_ne_zero, zpow_natCast]
          ring
      _ ≤ mantissa * growth * 2 ^ exponent :=
          mul_le_mul_of_nonneg_right (roundDiv_mul_le largest) (by positivity)
      _ = mantissa * 2 ^ exponent * growth := mul_right_comm ..

/-- A number in the range of doubles is packed. -/
theorem Sized.unpack_pack {size : ℚ} {x : UnpackedFloat} (sized : Sized size x)
    (inRange : size < 2 ^ 1024) : Sized size (unpack .binary64 (pack .binary64 x)) := by
  obtain ⟨positive, low, high, one, below⟩ := sized
  rw [(Normal.intro positive low high (by omega) rfl).unpack_pack (below.trans_lt inRange)]
  exact .intro positive low high one below

/-! ## Naturals, powers of ten and products -/

def shown (x : Float) : UnpackedFloat :=
  x.toModel.unpack

theorem nearestDouble_le (n : ℕ) : (nearestDouble n : ℚ) ≤ n * growth := by
  by_cases short : n ≤ 2 ^ 53
  · rw [nearestDouble_of_le short]
    exact le_mul_of_one_le_right (by positivity) (by norm_num [growth])
  have nonzero : n ≠ 0 := by omega
  have bits : 52 ≤ n.log2 := (Nat.le_log2 nonzero).mpr (by omega)
  have largest := Nat.log2_self_le nonzero
  rw [nearestDouble, Nat.cast_mul, Nat.pow_eq, Nat.cast_pow, Nat.cast_ofNat]
  exact roundDiv_mul_le (by rwa [Nat.add_sub_cancel' bits])

theorem sized_toFloat {n : ℕ} (nonzero : n ≠ 0) (word : n < 2 ^ 64) :
    Sized (n * growth) (shown n.toUInt64.toFloat) := by
  have value : n.toUInt64.toNat = n := UInt64.toNat_ofNat_of_lt' word
  have filled : n.toUInt64 ≠ 0 := by
    intro zero
    rw [zero] at value
    exact nonzero value.symm
  have normal := normal_toFloat filled
  rw [value] at normal
  refine .of_normal normal ?_ (nearestDouble_le n)
  exact_mod_cast nearestDouble_pos nonzero

/-- Powers of ten are made alike, the small ones from a table. -/
theorem powerOfTen_eq (exponent : ℕ) :
    Number.powerOfTen exponent = .ofModel (.ofScientific 1 exponent) := by
  have table : ∀ small < 23,
      Float.ofScientific 1 false small = .ofModel (.ofScientific 1 small) := by
    decide +kernel
  rw [Number.powerOfTen]
  by_cases small : exponent < 23
  · exact table exponent small
  · rw [Float.ofScientific, dif_neg (by omega)]
    rfl

theorem sized_powerOfTen {exponent : ℕ} (fits : exponent ≤ 308) :
    Sized (10 ^ exponent * growth) (shown (Number.powerOfTen exponent)) := by
  have product : UnpackedFloat.ofScientific .binary64 1 exponent =
      roundWithAccuracy .binary64 .positive (2 ^ 53 * 10 ^ exponent) (-53) .exact := by
    have notHuge : ¬(exponent : ℤ) > 2 ^ 11 := by omega
    have notTiny : ¬(exponent : ℤ) < -(2 ^ 11 + (Nat.log2 1 : ℤ)) := by omega
    rw [ofScientific, dif_neg one_ne_zero, if_neg notHuge, if_neg notTiny,
      if_pos (Int.natCast_nonneg exponent)]
    rfl
  have whole : shown (Number.powerOfTen exponent) =
      unpack .binary64 (pack .binary64 (ofScientific .binary64 1 exponent)) := by
    rw [powerOfTen_eq]
    rfl
  have bits : 53 ≤ (2 ^ 53 * 10 ^ exponent).log2 := by
    refine (Nat.le_log2 (by positivity)).mpr ?_
    exact Nat.le_mul_of_pos_right _ (by positivity)
  rw [whole, product]
  refine (sized_roundWithAccuracy _ (by omega) (by omega) (le_of_eq ?_)).unpack_pack ?_
  · push_cast
    ring
  · have last : (10 ^ 308 * 3 : ℚ) < 2 ^ 1024 * 2 := by
      exact_mod_cast (by decide +kernel : 10 ^ 308 * 3 < 2 ^ 1024 * 2)
    have power : (10 ^ exponent : ℚ) ≤ 10 ^ 308 := pow_le_pow_right₀ (by norm_num) fits
    calc (10 ^ exponent * growth : ℚ) ≤ 10 ^ 308 * (3 / 2) :=
          mul_le_mul power (by norm_num [growth]) (by norm_num [growth]) (by positivity)
      _ = 10 ^ 308 * 3 / 2 := (mul_div_assoc ..).symm
      _ < 2 ^ 1024 := (div_lt_iff₀ two_pos).mpr last

theorem Sized.isInf {size : ℚ} {x : UnpackedFloat} (sized : Sized size x) : x.isInf = false := by
  cases sized
  rfl

/-- A product whose exact value is in the range of doubles is not infinite. -/
theorem isInf_mul {x y : Float} {left right : ℚ} (sizedLeft : Sized left (shown x))
    (sizedRight : Sized right (shown y)) (inRange : left * right * growth < 2 ^ 1024) :
    (x * y).isInf = false := by
  have product : Sized (left * right * growth) (mul .binary64 (shown x) (shown y)) := by
    generalize shown x = x, shown y = y at sizedLeft sizedRight
    obtain ⟨-, low, -, one, below⟩ := sizedLeft
    obtain ⟨-, low', -, one', below'⟩ := sizedRight
    rename_i sign mantissa exponent _ sign' mantissa' exponent' _
    have bits : 104 ≤ (mantissa * mantissa').log2 := by
      refine (Nat.le_log2 (by positivity)).mpr ?_
      calc 2 ^ 104 = 2 ^ 52 * 2 ^ 52 := by norm_num
        _ ≤ mantissa * mantissa' := Nat.mul_le_mul low low'
    refine sized_roundWithAccuracy _ (by omega) (by omega) ?_
    refine mul_le_mul_of_nonneg_right ?_ (by unfold growth; positivity)
    calc ((mantissa * mantissa' : ℕ) * 2 ^ (exponent + exponent') : ℚ)
        = (mantissa * 2 ^ exponent) * (mantissa' * 2 ^ exponent') := by
          rw [zpow_add₀ two_ne_zero]
          push_cast
          ring
      _ ≤ left * right := mul_le_mul below below' (by positivity) (le_trans (by positivity) below)
  exact (product.unpack_pack inRange).isInf

theorem isInf_zero_mul {x : Float} {size : ℚ} (sized : Sized size (shown x)) :
    ((0 : ℕ).toUInt64.toFloat * x).isInf = false := by
  have packed : ∀ sign, (unpack .binary64 (pack .binary64 (.zero sign))).isInf = false := by
    intro sign
    cases sign <;> decide
  have zero : shown (0 : ℕ).toUInt64.toFloat = .zero .positive := rfl
  change (unpack .binary64 (pack .binary64
    (mul .binary64 (shown (0 : ℕ).toUInt64.toFloat) (shown x)))).isInf = false
  rw [zero]
  generalize shown x = x at sized
  cases sized
  exact packed _

end SampleCapture.Json
