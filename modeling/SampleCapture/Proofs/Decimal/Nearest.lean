import Mathlib
import SampleCapture.Decimal.Binary

/-!
# The nearest natural

To round a number is to take the nearest natural, and of two equally near ones the even one. That
alone decides the result and makes it grow with the number, whichever way it is worked out. What a
double keeps of a natural is rounded in units that grow with the natural, and still keeps order.
-/

namespace SampleCapture.Decimal

/-- The natural is as near to the number as any; of two equally near ones it is the even one. -/
structure Nearest (x : ℚ) (n : ℕ) : Prop where
  near : |(n : ℚ) - x| ≤ 1 / 2
  even : |(n : ℚ) - x| = 1 / 2 → Even n

namespace Nearest

variable {x y : ℚ} {m n : ℕ}

/-! ## Between two naturals -/

/-- In the lower half between two naturals the lower one is nearest. -/
theorem of_lower (le : n ≤ x) (lower : x < n + 1 / 2) : Nearest x n := by
  have distance : |(n : ℚ) - x| < 1 / 2 := by
    rw [abs_lt]
    constructor <;> linarith
  exact ⟨distance.le, fun half => absurd half distance.ne⟩

/-- In the upper half it is the upper one. -/
theorem of_upper (upper : n + 1 / 2 < x) (le : x ≤ n + 1) : Nearest x (n + 1) := by
  have distance : |((n + 1 : ℕ) : ℚ) - x| < 1 / 2 := by
    rw [abs_lt]
    push_cast
    constructor <;> linarith
  exact ⟨distance.le, fun half => absurd half distance.ne⟩

/-- Halfway it is the even one. -/
theorem of_half (half : x = n + 1 / 2) : Nearest x (n + n % 2) := by
  subst half
  rcases Nat.mod_two_eq_zero_or_one n with parity | parity <;> rw [parity]
  · refine ⟨by norm_num, fun _ => Nat.even_iff.mpr parity⟩
  · refine ⟨by norm_num, fun _ => Nat.even_iff.mpr (by omega)⟩

theorem of_eq (same : x = n) : Nearest x n :=
  of_lower same.ge (by rw [same]; linarith)

/-! ## Order -/

/-- Rounding keeps order. -/
theorem mono (first : Nearest x m) (second : Nearest y n) (le : x ≤ y) : m ≤ n := by
  by_contra above
  have next : (n : ℚ) + 1 ≤ m := by exact_mod_cast Nat.not_le.mp above
  obtain ⟨-, high⟩ := abs_le.mp first.near
  obtain ⟨low, -⟩ := abs_le.mp second.near
  -- Only a tie between neighbours is left, and these are not both even.
  have up : (m : ℚ) - x = 1 / 2 := by linarith
  have down : (n : ℚ) - y = -(1 / 2) := by linarith
  have neighbours : m = n + 1 := by
    have : (m : ℚ) = n + 1 := by linarith
    exact_mod_cast this
  have even := first.even (by rw [up, abs_of_pos one_half_pos])
  rw [neighbours, Nat.even_add_one] at even
  exact even (second.even (by rw [down, abs_neg, abs_of_pos one_half_pos]))

theorem unique (first : Nearest x m) (second : Nearest x n) : m = n :=
  Nat.le_antisymm (first.mono second le_rfl) (second.mono first le_rfl)

/-- Another integer is at least half a unit away. -/
theorem half_le_of_ne (nearest : Nearest x n) {k : ℤ} (other : k ≠ n) : 1 / 2 ≤ |(k : ℚ) - x| := by
  have apart : (1 : ℚ) ≤ |(k : ℚ) - n| := by
    exact_mod_cast Int.one_le_abs (sub_ne_zero.mpr other)
  have sides := abs_sub_le (k : ℚ) x n
  rw [abs_sub_comm x] at sides
  linarith [nearest.near]

theorem closest (nearest : Nearest x n) (k : ℤ) : |(n : ℚ) - x| ≤ |(k : ℚ) - x| := by
  by_cases same : k = n
  · rw [same, Int.cast_natCast]
  · exact nearest.near.trans (nearest.half_le_of_ne same)

theorem even_of_tie (nearest : Nearest x n) {k : ℤ} (other : k ≠ n)
    (tie : |(k : ℚ) - x| = |(n : ℚ) - x|) : Even n :=
  nearest.even (nearest.near.antisymm (tie ▸ nearest.half_le_of_ne other))

/-- What is as near as any integer, and even if another one is as near, is the nearest natural. -/
theorem of_closest (closest : ∀ k : ℤ, |(n : ℚ) - x| ≤ |(k : ℚ) - x|)
    (even : ∀ k : ℤ, k ≠ n → |(k : ℚ) - x| = |(n : ℚ) - x| → Even n) : Nearest x n := by
  constructor
  · have rounded := abs_sub_round x
    rw [abs_sub_comm] at rounded
    exact (closest (round x)).trans rounded
  · intro half
    rcases eq_or_eq_neg_of_abs_eq half with above | below
    · refine even (n - 1) (by omega) ?_
      rw [half, abs_eq (by norm_num)]
      right
      push_cast
      linarith
    · refine even (n + 1) (by omega) ?_
      rw [half, abs_eq (by norm_num)]
      left
      push_cast
      linarith

end Nearest

/-! ## Quotients -/

theorem nearest_roundDiv (numerator : ℕ) {denominator : ℕ} (positive : 0 < denominator) :
    Nearest (numerator / denominator) (roundDiv numerator denominator) := by
  have unit : (0 : ℚ) < denominator := by exact_mod_cast positive
  have split : (denominator * (numerator / denominator : ℕ) + (numerator % denominator : ℕ) : ℚ) =
      numerator := by
    exact_mod_cast Nat.div_add_mod numerator denominator
  have rest := Nat.mod_lt numerator positive
  unfold roundDiv
  generalize numerator / denominator = quotient at split
  generalize numerator % denominator = remainder at split rest
  have part : (numerator / denominator : ℚ) = quotient + remainder / denominator := by
    rw [← split, add_div, mul_div_cancel_left₀ _ unit.ne']
  dsimp only
  rw [part]
  split
  · rename_i lower
    have half : (remainder / denominator : ℚ) < 1 / 2 := by
      rw [div_lt_div_iff₀ unit two_pos]
      exact_mod_cast (by omega : remainder * 2 < 1 * denominator)
    exact .of_lower (le_add_of_nonneg_right (by positivity)) (by linarith)
  · split
    · rename_i upper
      have half : 1 / 2 < (remainder / denominator : ℚ) := by
        rw [div_lt_div_iff₀ two_pos unit]
        exact_mod_cast (by omega : 1 * denominator < remainder * 2)
      have below : (remainder / denominator : ℚ) ≤ 1 := by
        rw [div_le_one unit]
        exact_mod_cast rest.le
      exact .of_upper (by linarith) (by linarith)
    · have half : (remainder / denominator : ℚ) = 1 / 2 := by
        rw [div_eq_div_iff unit.ne' two_ne_zero]
        exact_mod_cast (by omega : remainder * 2 = 1 * denominator)
      exact .of_half (by rw [half])

/-- A rounded quotient is decided by the exact one. -/
theorem roundDiv_eq {numerator denominator n : ℕ} (positive : 0 < denominator)
    (nearest : Nearest (numerator / denominator) n) : roundDiv numerator denominator = n :=
  (nearest_roundDiv numerator positive).unique nearest

theorem roundDiv_mono {a b denominator : ℕ} (positive : 0 < denominator) (le : a ≤ b) :
    roundDiv a denominator ≤ roundDiv b denominator := by
  refine (nearest_roundDiv a positive).mono (nearest_roundDiv b positive) ?_
  gcongr

theorem roundDiv_mul (n : ℕ) {denominator : ℕ} (positive : 0 < denominator) :
    roundDiv (n * denominator) denominator = n := by
  refine roundDiv_eq positive (.of_eq ?_)
  rw [Nat.cast_mul, mul_div_cancel_right₀]
  exact_mod_cast positive.ne'

/-! ## What a double keeps -/

theorem nearestDouble_of_le {n : ℕ} (fits : n ≤ 2 ^ 53) : nearestDouble n = n := by
  rcases fits.lt_or_eq with small | rfl
  · exact nearestDouble_of_lt small
  · decide

theorem ne_zero_of_log2_pos {n : ℕ} (positive : 0 < n.log2) : n ≠ 0 := by
  rintro rfl
  rw [Nat.log2_zero] at positive
  exact positive.ne rfl

/-- Bits that are rounded away leave a number of the bits before them, or a carry. -/
theorem roundDiv_log2 {n kept places : ℕ} (nonzero : n ≠ 0) (log : n.log2 = kept + places) :
    2 ^ kept ≤ roundDiv n (2 ^ places) ∧ roundDiv n (2 ^ places) ≤ 2 ^ (kept + 1) := by
  have low := Nat.log2_self_le nonzero
  have high := Nat.lt_log2_self (n := n)
  have unit := Nat.two_pow_pos places
  rw [log] at low high
  rw [Nat.pow_add] at low
  rw [Nat.add_right_comm, Nat.pow_add] at high
  constructor
  · rw [← roundDiv_mul (2 ^ kept) unit]
    exact roundDiv_mono unit low
  · rw [← roundDiv_mul (2 ^ (kept + 1)) unit]
    exact roundDiv_mono unit high.le

theorem nearestDouble_log2 {n : ℕ} (nonzero : n ≠ 0) :
    2 ^ n.log2 ≤ nearestDouble n ∧ nearestDouble n ≤ 2 ^ (n.log2 + 1) := by
  obtain ⟨kept, log⟩ := Nat.exists_eq_add_of_le' (Nat.sub_le n.log2 52)
  obtain ⟨low, high⟩ := roundDiv_log2 nonzero log
  have whole : 2 ^ n.log2 = 2 ^ kept * 2 ^ (n.log2 - 52) := by rw [← Nat.pow_add, ← log]
  rw [Nat.pow_succ, whole, nearestDouble, Nat.mul_right_comm, ← Nat.pow_succ]
  exact ⟨Nat.mul_le_mul_right _ low, Nat.mul_le_mul_right _ high⟩

theorem nearestDouble_pos {n : ℕ} (nonzero : n ≠ 0) : 1 ≤ nearestDouble n :=
  (Nat.one_le_two_pow).trans (nearestDouble_log2 nonzero).1

/-- The greater natural is not the smaller double. -/
theorem nearestDouble_mono {a b : ℕ} (le : a ≤ b) : nearestDouble a ≤ nearestDouble b := by
  by_cases zero : a = 0
  · rw [zero, nearestDouble_of_le (Nat.zero_le _)]
    exact Nat.zero_le _
  have more : b ≠ 0 := by omega
  have logs : a.log2 ≤ b.log2 := (Nat.le_log2 more).mpr ((Nat.log2_self_le zero).trans le)
  rcases logs.lt_or_eq with longer | same
  · calc nearestDouble a ≤ 2 ^ (a.log2 + 1) := (nearestDouble_log2 zero).2
      _ ≤ 2 ^ b.log2 := Nat.pow_le_pow_right two_pos longer
      _ ≤ nearestDouble b := (nearestDouble_log2 more).1
  · rw [nearestDouble, nearestDouble, same]
    exact Nat.mul_le_mul_right _ (roundDiv_mono (Nat.two_pow_pos _) le)

end SampleCapture.Decimal
