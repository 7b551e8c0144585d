import SampleCapture.Proofs.Decimal.Nearest

/-!
# The arithmetic of doubles

Doubles are made by shifting bits out, rounding what is left of them and packing it. Seen as
numbers, a natural becomes the double nearest to it, and a division by a power of two is exact.
-/

namespace SampleCapture.Decimal

open Float.Model (Format UnpackedFloat totalExponent)
open Float.Model.UnpackedFloat

/-! ## Bits that are shifted out -/

/-- The number that a mantissa and the two bits behind it stand for: the first of these is worth
half a unit, and the second one tells that something smaller is left. -/
inductive StandsFor : ExtendedMantissa → ℚ → Prop
  | whole {mantissa : ℕ} {x : ℚ} (same : x = mantissa) : StandsFor ⟨mantissa, false, false⟩ x
  | lower {mantissa : ℕ} {x : ℚ} (more : mantissa < x) (less : x < mantissa + 1 / 2) :
      StandsFor ⟨mantissa, false, true⟩ x
  | half {mantissa : ℕ} {x : ℚ} (same : x = mantissa + 1 / 2) : StandsFor ⟨mantissa, true, false⟩ x
  | upper {mantissa : ℕ} {x : ℚ} (more : mantissa + 1 / 2 < x) (less : x < mantissa + 1) :
      StandsFor ⟨mantissa, true, true⟩ x

namespace StandsFor

variable {extended : ExtendedMantissa} {x : ℚ}

theorem nearest (stands : StandsFor extended x) : Nearest x extended.roundedMantissa := by
  cases stands with
  | whole same => exact .of_eq same
  | lower more less => exact .of_lower more.le less
  | half same => exact .of_half same
  | upper more less => exact .of_upper more less.le

/-- A bit that is shifted out is the half unit from now on. -/
theorem shiftRightOne (stands : StandsFor extended x) :
    StandsFor extended.shiftRightOne (x / 2) := by
  obtain ⟨mantissa, roundBit, stickyBit⟩ := extended
  obtain ⟨half, rfl | rfl⟩ := Nat.even_or_odd' mantissa
  · have shifted : ExtendedMantissa.shiftRightOne ⟨2 * half, roundBit, stickyBit⟩ =
        ⟨half, false, roundBit || stickyBit⟩ := by
      simp [ExtendedMantissa.shiftRightOne]
    rw [shifted]
    cases stands <;> push_cast at *
    case whole same => exact .whole (by linarith)
    case lower more less => exact .lower (by linarith) (by linarith)
    case half same => exact .lower (by linarith) (by linarith)
    case upper more less => exact .lower (by linarith) (by linarith)
  · have shifted : ExtendedMantissa.shiftRightOne ⟨2 * half + 1, roundBit, stickyBit⟩ =
        ⟨half, true, roundBit || stickyBit⟩ := by
      simp [ExtendedMantissa.shiftRightOne, Nat.mul_add_div]
    rw [shifted]
    cases stands <;> push_cast at *
    case whole same => exact .half (by linarith)
    case lower more less => exact .upper (by linarith) (by linarith)
    case half same => exact .upper (by linarith) (by linarith)
    case upper more less => exact .upper (by linarith) (by linarith)

theorem shiftRight (stands : StandsFor extended x) (places : ℕ) :
    StandsFor (extended >>> places) (x / 2 ^ places) := by
  change StandsFor (places.repeat ExtendedMantissa.shiftRightOne extended) _
  induction places with
  | zero => simpa [Nat.repeat] using stands
  | succ places ih =>
      rw [Nat.repeat, pow_succ, ← div_div]
      exact ih.shiftRightOne

theorem ofExact (mantissa : ℕ) :
    StandsFor (ExtendedMantissa.ofMantissaAndAccuracy mantissa .exact) mantissa := .whole rfl

end StandsFor

/-- Shifted bits are rounded like a quotient. -/
theorem roundedMantissa_shiftRight (mantissa places : ℕ) :
    (ExtendedMantissa.ofMantissaAndAccuracy mantissa .exact >>> places).roundedMantissa =
      roundDiv mantissa (2 ^ places) := by
  have nearest := ((StandsFor.ofExact mantissa).shiftRight places).nearest
  refine (roundDiv_eq (Nat.two_pow_pos _) ?_).symm
  rw [Nat.cast_pow, Nat.cast_ofNat]
  exact nearest

/-! ## Rounding -/

/-- A normal double with this sign and this size. -/
inductive Normal (sign : Sign) (x : ℚ) : UnpackedFloat → Prop
  | intro {mantissa : ℕ} {exponent : ℤ} (positive : 0 < mantissa) (low : 2 ^ 52 ≤ mantissa)
      (high : mantissa < 2 ^ 53) (first : -1074 ≤ exponent)
      (value : mantissa * 2 ^ exponent = x) :
      Normal sign x (.finite sign mantissa exponent positive)

theorem targetExponent_binary64 (total : ℤ) :
    Format.binary64.targetExponent total = max (total - 53) (-1074) := rfl

/-- A number that has enough bits is shifted to 53 of them. -/
theorem shiftToTargetExponent_eq {mantissa places : ℕ} {exponent : ℤ}
    (log : mantissa.log2 = 52 + places) (first : -1074 ≤ exponent + places) :
    shiftToTargetExponent .binary64 mantissa exponent .exact =
      (ExtendedMantissa.ofMantissaAndAccuracy mantissa .exact >>> places, exponent + places) := by
  have shift : (max (mantissa.log2 + 1 + exponent - 53) (-1074) - exponent).toNat = places := by
    omega
  rw [shiftToTargetExponent, shiftToExponent, totalExponent, targetExponent_binary64, shift]

/-- A carry needs one more bit, which is shifted out again. -/
theorem exists_carried {rounded : ℕ} {exponent : ℤ} (low : 2 ^ 52 ≤ rounded)
    (high : rounded ≤ 2 ^ 53) (first : -1074 ≤ exponent) :
    ∃ extended final, shiftToTargetExponent .binary64 rounded exponent .exact = (extended, final) ∧
      2 ^ 52 ≤ extended.mantissa ∧ extended.mantissa < 2 ^ 53 ∧ exponent ≤ final ∧
      (extended.mantissa * 2 ^ final : ℚ) = rounded * 2 ^ exponent := by
  rcases high.lt_or_eq with small | rfl
  · have bits : rounded.log2 = 52 + 0 := (Nat.log2_eq_iff (by omega)).mpr ⟨low, small⟩
    refine ⟨_, _, shiftToTargetExponent_eq bits (by omega), low, small, by omega, ?_⟩
    rw [Nat.cast_zero, add_zero]
    rfl
  · have bits : (2 ^ 53).log2 = 52 + 1 := Nat.log2_two_pow
    have left : (ExtendedMantissa.ofMantissaAndAccuracy (2 ^ 53) .exact >>> 1).mantissa = 2 ^ 52 :=
      rfl
    refine ⟨_, _, shiftToTargetExponent_eq bits (by omega), left.ge, ?_, by omega, ?_⟩
    · rw [left]
      norm_num
    · rw [left, zpow_add₀ two_ne_zero]
      norm_num
      ring

/-- A number that has enough bits is rounded to the 53 first of them. -/
theorem normal_roundWithAccuracy (sign : Sign) {mantissa places : ℕ} {exponent : ℤ}
    (log : mantissa.log2 = 52 + places) (first : -1074 ≤ exponent + places) :
    Normal sign (roundDiv mantissa (2 ^ places) * 2 ^ (exponent + places))
      (roundWithAccuracy .binary64 sign mantissa exponent .exact) := by
  have nonzero := ne_zero_of_log2_pos (n := mantissa) (by omega)
  obtain ⟨low, high⟩ := roundDiv_log2 nonzero log
  obtain ⟨extended, final, carried, low, high, up, value⟩ := exists_carried low high first
  rw [roundWithAccuracy, shiftToTargetExponent_eq log first]
  simp only [roundedMantissa_shiftRight, carried]
  rw [dif_neg (by omega)]
  exact .intro _ low high (first.trans up) value

theorem log2_mul_two_pow {n : ℕ} (nonzero : n ≠ 0) (places : ℕ) :
    (n * 2 ^ places).log2 = n.log2 + places := by
  have low := Nat.log2_self_le nonzero
  have high := Nat.lt_log2_self (n := n)
  refine (Nat.log2_eq_iff (by positivity)).mpr ⟨?_, ?_⟩
  · rw [Nat.pow_add]
    exact Nat.mul_le_mul_right _ low
  · rw [Nat.add_right_comm, Nat.pow_add]
    exact Nat.mul_lt_mul_of_pos_right high (Nat.two_pow_pos _)

/-- A natural is rounded to the double nearest to it. -/
theorem normal_round (sign : Sign) {n : ℕ} (nonzero : n ≠ 0) :
    Normal sign (nearestDouble n) (UnpackedFloat.round .binary64 sign n 0) := by
  have shift : (0 - max (n.log2 + 1 + 0 - 53 : ℤ) (-1074)).toNat = 52 - n.log2 := by omega
  rw [UnpackedFloat.round, totalExponent, targetExponent_binary64, decreaseExponent, shift]
  dsimp only
  rw [Nat.shiftLeft_eq]
  have log : (n * 2 ^ (52 - n.log2)).log2 = 52 + (n.log2 - 52) := by
    rw [log2_mul_two_pow nonzero]
    omega
  have first : -1074 ≤ (0 - (52 - n.log2 : ℕ) : ℤ) + (n.log2 - 52 : ℕ) := by omega
  have rounded := normal_roundWithAccuracy sign log first
  convert rounded using 1
  have eq : nearestDouble n = roundDiv n (2 ^ (n.log2 - 52)) * 2 ^ (n.log2 - 52) := rfl
  rw [eq]
  rcases Nat.le_total n.log2 52 with short | long
  · rw [Nat.sub_eq_zero_of_le short, pow_zero, roundDiv_one, roundDiv_one, mul_one,
      Nat.cast_zero, add_zero, zero_sub, zpow_neg, zpow_natCast, Nat.cast_mul, Nat.cast_pow,
      Nat.cast_ofNat, mul_inv_cancel_right₀ (by positivity)]
  · rw [Nat.sub_eq_zero_of_le long, pow_zero, mul_one, Nat.cast_zero, sub_zero, zero_add,
      zpow_natCast]
    push_cast
    rfl

/-! ## Packing -/

theorem pack_normal (sign : Sign) {mantissa : ℕ} {exponent : ℤ} (positive : 0 < mantissa)
    (bits : mantissa.log2 = 52) (last : exponent ≤ 971) :
    pack .binary64 (.finite sign mantissa exponent positive) =
      packComponents .binary64 sign (.ofNat 11 (exponent + 1075).toNat) (.ofNat 52 mantissa) := by
  have biased : (exponent + Format.binary64.exponentBias + (52 : ℕ)).toNat =
      (exponent + 1075).toNat := by
    change (exponent + (1023 : ℕ) + (52 : ℕ)).toNat = _
    omega
  have room : ¬2 ^ 11 ≤ (exponent + 1075).toNat + 1 := by omega
  have normal : mantissa.log2 + 1 = Format.binary64.mantissaBits := by rw [bits]; rfl
  simp only [pack, biased, room, normal, ↓reduceIte]

theorem toNat_implicitBit {mantissa : ℕ} (low : 2 ^ 52 ≤ mantissa) (high : mantissa < 2 ^ 53) :
    (1#1 ++ BitVec.ofNat 52 mantissa).toNat = mantissa := by
  rw [BitVec.toNat_append, ← Nat.shiftLeft_add_eq_or_of_lt (BitVec.isLt _), BitVec.toNat_ofNat]
  simp only [BitVec.toNat_ofNat, Nat.shiftLeft_eq]
  omega

/-- A number that is neither infinite nor below the normal ones has its bits and its exponent. -/
theorem unpack_packComponents (sign : Sign) {exponent : BitVec 11} (mantissa : BitVec 52)
    (normal : exponent ≠ 0#11) (finite : exponent ≠ -1#11)
    (positive : 0 < (1#1 ++ mantissa).toNat) :
    unpack .binary64 (packComponents .binary64 sign exponent mantissa) =
      .finite sign (1#1 ++ mantissa).toNat (exponent.toNat - 1075) positive := by
  simp only [unpack, unpackExponent_packComponents, unpackMantissa_packComponents,
    unpackSign_packComponents, Sign.ofBitVec_toBitVec, normal, finite, ↓reduceIte]
  rfl

/-- The exponent of a number with 53 bits that is in the range of doubles. -/
theorem exponent_le {mantissa : ℕ} {exponent : ℤ} (low : 2 ^ 52 ≤ mantissa)
    (inRange : (mantissa * 2 ^ exponent : ℚ) < 2 ^ 1024) : exponent ≤ 971 := by
  have power : (2 ^ (52 + exponent) : ℚ) < 2 ^ (1024 : ℤ) := by
    calc (2 ^ (52 + exponent) : ℚ) = (2 ^ 52 : ℕ) * 2 ^ exponent := by
          rw [zpow_add₀ two_ne_zero]
          norm_num
      _ ≤ mantissa * 2 ^ exponent :=
          mul_le_mul_of_nonneg_right (by exact_mod_cast low) (by positivity)
      _ < 2 ^ (1024 : ℤ) := by exact_mod_cast inRange
  have less := (zpow_lt_zpow_iff_right₀ one_lt_two).mp power
  omega

/-- A normal double in range is packed as it is. -/
theorem Normal.unpack_pack {sign : Sign} {x : ℚ} {double : UnpackedFloat}
    (normal : Normal sign x double) (inRange : x < 2 ^ 1024) :
    unpack .binary64 (pack .binary64 double) = double := by
  obtain ⟨positive, low, high, first, rfl⟩ := normal
  rename_i mantissa exponent
  have last := exponent_le low inRange
  have bits : mantissa.log2 = 52 := (Nat.log2_eq_iff (by omega)).mpr ⟨low, high⟩
  have biased : (BitVec.ofNat 11 (exponent + 1075).toNat).toNat = (exponent + 1075).toNat := by
    rw [BitVec.toNat_ofNat]
    omega
  have notZero : BitVec.ofNat 11 (exponent + 1075).toNat ≠ 0#11 := by
    intro zero
    rw [zero, BitVec.toNat_ofNat] at biased
    omega
  have notOnes : BitVec.ofNat 11 (exponent + 1075).toNat ≠ -1#11 := by
    intro ones
    rw [ones] at biased
    change 2047 = _ at biased
    omega
  have whole := toNat_implicitBit low high
  have back : ((exponent + 1075).toNat - 1075 : ℤ) = exponent := by omega
  rw [pack_normal sign positive bits last,
    unpack_packComponents sign (.ofNat 52 mantissa) notZero notOnes (whole.symm ▸ positive)]
  simp only [whole, biased, back]

/-! ## Reading the fields -/

section fields

variable (bits : UInt64)

theorem toNat_unpackExponent :
    (@unpackExponent .binary64 bits.toBitVec).toNat = (bits >>> 52).toNat % 2 ^ 11 := by
  rw [unpackExponent_def, BitVec.extractLsb'_toNat, UInt64.toNat_shiftRight]
  rfl

theorem toNat_unpackMantissa :
    (@unpackMantissa .binary64 bits.toBitVec).toNat = bits.toNat % 2 ^ 52 := by
  rw [unpackMantissa_def, BitVec.extractLsb'_toNat]
  rfl

theorem unpackSign_eq :
    (Sign.ofBitVec (@unpackSign .binary64 bits.toBitVec) == .negative) =
      (bits >>> 63 == 1) := by
  have word := bits.toNat_lt
  have value : (@unpackSign .binary64 bits.toBitVec).toNat = (bits >>> 63).toNat := by
    rw [unpackSign_def, BitVec.extractLsb'_toNat, UInt64.toNat_shiftRight]
    change bits.toNat >>> 63 % 2 ^ 1 = bits.toNat >>> 63
    rw [Nat.shiftRight_eq_div_pow]
    omega
  generalize @unpackSign .binary64 bits.toBitVec = sign at value
  rw [Bool.eq_iff_iff, beq_iff_eq, beq_iff_eq, ← UInt64.toNat_inj, ← value]
  rcases BitVec.eq_zero_or_eq_one sign with rfl | rfl
  · exact iff_of_false nofun (by decide)
  · exact iff_of_true rfl rfl

end fields

namespace DoubleValue

def ofUnpacked : UnpackedFloat → DoubleValue
  | .notANumber => .nan
  | .infinity sign => .infinite (sign == .negative)
  | .zero sign => .finite (sign == .negative) 0 (-1074)
  | .finite sign mantissa exponent _ => .finite (sign == .negative) mantissa exponent

/-- The three fields of a double are read as they are unpacked. -/
theorem ofBits_eq (bits : UInt64) :
    ofBits bits = ofUnpacked (unpack .binary64 bits.toBitVec) := by
  have exponent := toNat_unpackExponent bits
  have fraction := toNat_unpackMantissa bits
  have ones : @unpackExponent .binary64 bits.toBitVec = -1#11 ↔
      (bits >>> 52).toNat % 2 ^ 11 = 2047 := by
    rw [← exponent, ← BitVec.toNat_inj]
    rfl
  have zeros : @unpackExponent .binary64 bits.toBitVec = 0#11 ↔
      (bits >>> 52).toNat % 2 ^ 11 = 0 := by
    rw [← exponent, ← BitVec.toNat_inj]
    rfl
  have empty : @unpackMantissa .binary64 bits.toBitVec = 0#52 ↔
      bits.toNat % 2 ^ 52 = 0 := by
    rw [← fraction, ← BitVec.toNat_inj]
    rfl
  have whole : (1#1 ++ @unpackMantissa .binary64 bits.toBitVec).toNat =
      2 ^ 52 + bits.toNat % 2 ^ 52 := by
    rw [BitVec.toNat_append, ← Nat.shiftLeft_add_eq_or_of_lt (BitVec.isLt _), fraction]
    rfl
  unfold ofBits unpack
  dsimp only
  rw [← unpackSign_eq, Nat.pow_eq, Nat.pow_eq]
  simp only [ones, zeros, empty]
  generalize (bits >>> 52).toNat % 2 ^ 11 = field at *
  generalize Sign.ofBitVec (@unpackSign .binary64 bits.toBitVec) = sign
  split
  · split <;> rfl
  · split
    · split
      · rename_i none
        rw [none]
        rfl
      · rename_i least _
        rw [ofUnpacked, fraction, exponent, least]
        rfl
    · rw [ofUnpacked, whole, exponent]
      rfl

theorem ofFloat_eq (x : Float) : ofFloat x = ofUnpacked x.toModel.unpack :=
  ofBits_eq x.toBits

def toRat? : DoubleValue → Option ℚ
  | finite negative mantissa exponent =>
      some ((if negative then -1 else 1) * mantissa * 2 ^ exponent)
  | _ => none

end DoubleValue

/-! ## Naturals and powers of two -/

theorem nearestDouble_word (n : UInt64) : (nearestDouble n.toNat : ℚ) ≤ 2 ^ 64 := by
  have last : nearestDouble (2 ^ 64) = 2 ^ 64 := by decide
  have le := nearestDouble_mono n.toNat_lt.le
  rw [last] at le
  exact_mod_cast le

/-- A word becomes the double nearest to it. -/
theorem normal_toFloat {n : UInt64} (nonzero : n ≠ 0) :
    Normal .positive (nearestDouble n.toNat) n.toFloat.toModel.unpack := by
  have nonzero : n.toNat ≠ 0 := fun zero => nonzero (UInt64.toNat_inj.mp zero)
  have natural : ofNat .binary64 n.toNat = UnpackedFloat.round .binary64 .positive n.toNat 0 := by
    have positive : compare (n.toNat : ℤ) 0 = .gt := by
      rw [compare_gt_iff_gt]
      omega
    simp only [ofNat, ofInt, UnpackedFloat.normalize, positive]
    rfl
  have whole : n.toFloat.toModel.unpack =
      unpack .binary64 (pack .binary64 (ofNat .binary64 n.toNat)) := rfl
  have rounded := normal_round .positive nonzero
  rw [whole, natural, rounded.unpack_pack]
  · exact rounded
  · exact (nearestDouble_word n).trans_lt (pow_lt_pow_right₀ one_lt_two (by decide))

/-- The exponent of a number with 53 bits that is not below one. -/
theorem le_exponent {mantissa : ℕ} {exponent : ℤ} (high : mantissa < 2 ^ 53)
    (one : (1 : ℚ) ≤ mantissa * 2 ^ exponent) : -52 ≤ exponent := by
  have power : (2 ^ (0 : ℤ) : ℚ) < 2 ^ (53 + exponent) := by
    calc (2 ^ (0 : ℤ) : ℚ) ≤ mantissa * 2 ^ exponent := by rwa [zpow_zero]
      _ < (2 ^ 53 : ℕ) * 2 ^ exponent :=
          mul_lt_mul_of_pos_right (by exact_mod_cast high) (by positivity)
      _ = 2 ^ (53 + exponent) := by
          rw [zpow_add₀ two_ne_zero]
          norm_num
  have less := (zpow_lt_zpow_iff_right₀ one_lt_two).mp power
  omega

theorem divCore_two_pow {mantissa places : ℕ} {exponent : ℤ} (bits : mantissa.log2 = 52)
    (room : places ≤ exponent + 1073) :
    divCore .binary64 mantissa exponent (2 ^ 52) (places - 52) =
      (mantissa * 2, exponent - places - 1, .exact) := by
  have target : min (exponent - (places - 52 : ℤ))
      (max ((52 : ℕ) + 1 + exponent - ((52 : ℕ) + 1 + (places - 52 : ℤ)) - 53) (-1074)) =
        exponent - places - 1 := by
    omega
  have shift : (exponent - (places - 52 : ℤ) - (exponent - places - 1)).toNat = 53 := by omega
  unfold divCore totalExponent
  rw [bits, Nat.log2_two_pow, targetExponent_binary64]
  simp only [target, shift, Nat.shiftLeft_eq]
  rw [show mantissa * 2 ^ 53 = mantissa * 2 * 2 ^ 52 by ring, Nat.mul_div_cancel _ (by positivity),
    Nat.mul_mod_left]
  rfl

/-- A power of two as a divisor makes the exponent smaller, and nothing is rounded. -/
theorem Normal.div_two_pow {sign : Sign} {x : ℚ} {double : UnpackedFloat}
    (normal : Normal sign x double) (one : 1 ≤ x) {places : ℕ} (few : places ≤ 1000)
    (divisor : 0 < 2 ^ 52) :
    Normal sign (x / 2 ^ places)
      (div .binary64 double (.finite .positive (2 ^ 52) (places - 52) divisor)) := by
  obtain ⟨positive, low, high, first, rfl⟩ := normal
  rename_i mantissa exponent
  have least := le_exponent high one
  have bits : mantissa.log2 = 52 := (Nat.log2_eq_iff (by omega)).mpr ⟨low, high⟩
  have signs : sign / .positive = sign := by cases sign <;> rfl
  have log : (mantissa * 2 ^ 1).log2 = 52 + 1 := by rw [log2_mul_two_pow positive.ne', bits]
  have first : -1074 ≤ exponent - places - 1 + (1 : ℕ) := by omega
  have rounded := normal_roundWithAccuracy sign log first
  rw [roundDiv_mul mantissa (by decide), Nat.cast_one, sub_add_cancel, zpow_sub₀ two_ne_zero,
    zpow_natCast, ← mul_div_assoc, pow_one] at rounded
  rw [UnpackedFloat.div, divCore_two_pow bits (by omega), signs]
  exact rounded

/-- A word that is divided by `2 ^ 20` as a double loses only what the double does not keep. -/
theorem ofFloat_toFloat_div (n : UInt64) :
    ∃ mantissa exponent,
      DoubleValue.ofFloat (n.toFloat / (1024.0 * 1024.0)) = .finite false mantissa exponent ∧
        (mantissa * 2 ^ exponent : ℚ) = nearestDouble n.toNat / 2 ^ 20 := by
  by_cases zero : n = 0
  · refine ⟨0, -1074, ?_, ?_⟩
    · rw [zero]
      rfl
    · rw [zero, UInt64.toNat_zero, nearestDouble_of_le (Nat.zero_le _), Nat.cast_zero, zero_mul,
        zero_div]
  have one : (1 : ℚ) ≤ nearestDouble n.toNat := by
    exact_mod_cast nearestDouble_pos fun none => zero (UInt64.toNat_inj.mp none)
  have few : 20 ≤ 1000 := by decide
  have divided := (normal_toFloat zero).div_two_pow one few (by decide)
  have quotient : (n.toFloat / (1024.0 * 1024.0)).toModel.unpack =
      unpack .binary64 (pack .binary64 (div .binary64 n.toFloat.toModel.unpack
        (.finite .positive (2 ^ 52) ((20 : ℕ) - 52) (by decide)))) := rfl
  rw [DoubleValue.ofFloat_eq, quotient, divided.unpack_pack]
  · generalize div .binary64 n.toFloat.toModel.unpack _ = double at divided
    obtain ⟨positive, -, -, -, value⟩ := divided
    exact ⟨_, _, rfl, value⟩
  · calc (nearestDouble n.toNat / 2 ^ 20 : ℚ) ≤ nearestDouble n.toNat :=
          div_le_self (by positivity) (by norm_num)
      _ ≤ 2 ^ 64 := nearestDouble_word n
      _ < 2 ^ 1024 := pow_lt_pow_right₀ one_lt_two (by decide)

/-! ## Text -/

/-- The text of a quotient hangs on the exact quotient alone. -/
theorem fixed_congr (places : ℕ) {a b c d : ℕ} (b_pos : 0 < b) (d_pos : 0 < d)
    (same : (a / b : ℚ) = c / d) : fixed places a b = fixed places c d := by
  unfold fixed
  congr 1
  refine roundDiv_eq b_pos ?_
  have scaled : ((a * Nat.pow 10 places : ℕ) / b : ℚ) = (c * Nat.pow 10 places : ℕ) / d := by
    rw [Nat.cast_mul, Nat.cast_mul, mul_div_right_comm, mul_div_right_comm, same]
  rw [scaled]
  exact nearest_roundDiv _ d_pos

/-- A double without a minus is written like the quotient that it is. -/
theorem DoubleValue.fixed_finite (places : ℕ) {mantissa a b : ℕ} {exponent : ℤ} (b_pos : 0 < b)
    (same : (mantissa * 2 ^ exponent : ℚ) = a / b) :
    (DoubleValue.finite false mantissa exponent).fixed places 0 = Decimal.fixed places a b := by
  refine fixed_congr places (Nat.two_pow_pos _) b_pos ?_
  rw [← same, Nat.cast_mul, Nat.pow_eq, Nat.pow_eq, Nat.cast_pow, Nat.cast_pow, Nat.cast_ofNat]
  obtain ⟨size, rfl | rfl⟩ := exponent.eq_nat_or_neg
  · simp
  · simp [div_eq_mul_inv]

end SampleCapture.Decimal
