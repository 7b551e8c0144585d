import SampleCapture.Proofs.Decimal.Nearest

/-!
# Decimals as they are read

A decimal is read off its text, wherever in a column it stands. Among the decimals with so many
places only one rounds a given number, and a quotient with fixed places is written as that one.
-/

namespace SampleCapture.Decimal

/-! ## Digits -/

def digitValue (digit : Char) : ℕ :=
  digit.toNat - '0'.toNat

theorem digitValue_lt {digit : Char} (isDigit : digit.isDigit = true) : digitValue digit < 10 := by
  obtain ⟨-, high⟩ := Char.isDigit_iff_toNat.mp isDigit
  exact Nat.lt_succ_of_le (Nat.sub_le_sub_right high '0'.toNat)

theorem digitValue_inj {first second : Char} (isDigit : first.isDigit = true)
    (isDigit' : second.isDigit = true) (same : digitValue first = digitValue second) :
    first = second := by
  obtain ⟨low, -⟩ := Char.isDigit_iff_toNat.mp isDigit
  obtain ⟨low', -⟩ := Char.isDigit_iff_toNat.mp isDigit'
  refine Char.toNat_inj.mp ?_
  unfold digitValue at same
  omega

theorem ofDigitChars_concat (digits : List Char) (last : Char) :
    Nat.ofDigitChars 10 (digits ++ [last]) 0 =
      10 * Nat.ofDigitChars 10 digits 0 + digitValue last := by
  rw [Nat.ofDigitChars_append, Nat.ofDigitChars_cons, Nat.ofDigitChars_nil, digitValue]

theorem ofDigitChars_lt {digits : List Char} (isDigit : ∀ c ∈ digits, c.isDigit = true) :
    Nat.ofDigitChars 10 digits 0 < 10 ^ digits.length := by
  induction digits using List.reverseRecOn with
  | nil => exact Nat.one_pos
  | append_singleton digits last ih =>
      simp only [List.forall_mem_append, List.forall_mem_singleton] at isDigit
      have before := ih isDigit.1
      have low := digitValue_lt isDigit.2
      rw [ofDigitChars_concat, List.length_append, List.length_singleton, Nat.pow_succ]
      omega

/-- Digits are known by their number and their value. -/
theorem eq_of_ofDigitChars_eq {first second : List Char} (length : first.length = second.length)
    (isDigit : ∀ c ∈ first, c.isDigit = true) (isDigit' : ∀ c ∈ second, c.isDigit = true)
    (same : Nat.ofDigitChars 10 first 0 = Nat.ofDigitChars 10 second 0) : first = second := by
  induction first using List.reverseRecOn generalizing second with
  | nil => exact (List.length_eq_zero_iff.mp length.symm).symm
  | append_singleton first last ih =>
      rcases List.eq_nil_or_concat' second with rfl | ⟨front, digit, rfl⟩
      · simp at length
      rw [ofDigitChars_concat, ofDigitChars_concat] at same
      simp only [List.forall_mem_append, List.forall_mem_singleton] at isDigit isDigit'
      have low := digitValue_lt isDigit.2
      have low' := digitValue_lt isDigit'.2
      rw [ih (by simpa using length) isDigit.1 isDigit'.1 (by omega),
        digitValue_inj isDigit.2 isDigit'.2 (by omega)]

theorem isDigit_toDigits {n : ℕ} {c : Char} (member : c ∈ Nat.toDigits 10 n) :
    c.isDigit = true :=
  Nat.isDigit_of_mem_toDigits (by decide) (by decide) member

section zeroPadded

variable {width n : ℕ}

theorem isDigit_zeroPadded {c : Char} (member : c ∈ zeroPadded width n) : c.isDigit = true := by
  rcases List.mem_append.mp member with zero | digit
  · rw [List.eq_of_mem_replicate zero]
    rfl
  · exact isDigit_toDigits digit

theorem ofDigitChars_zeroPadded : Nat.ofDigitChars 10 (zeroPadded width n) 0 = n := by
  rw [zeroPadded, Nat.ofDigitChars_append, Nat.ofDigitChars_replicate_zero, Nat.mul_zero,
    Nat.ofDigitChars_ten_toDigits]

theorem length_zeroPadded (positive : 0 < width) (fits : n < 10 ^ width) :
    (zeroPadded width n).length = width := by
  have short := (Nat.length_toDigits_le_iff (by decide) positive).mpr fits
  rw [zeroPadded, List.length_append, List.length_replicate, Nat.sub_add_cancel short]

end zeroPadded

/-! ## Numerals -/

structure Numeral where
  whole : ℕ
  fraction : List Char
deriving DecidableEq

namespace Numeral

/-- The text of a decimal, without needless zeros in front. -/
def text (numeral : Numeral) : List Char :=
  Nat.toDigits 10 numeral.whole ++ '.' :: numeral.fraction

def value (numeral : Numeral) : ℚ :=
  numeral.whole + Nat.ofDigitChars 10 numeral.fraction 0 / 10 ^ numeral.fraction.length

/-- Reads a decimal that may have blanks in front. -/
def read (column : List Char) : Numeral :=
  let text := column.dropWhile (· == ' ')
  { whole := Nat.ofDigitChars 10 (text.takeWhile (· != '.')) 0
    fraction := (text.dropWhile (· != '.')).drop 1 }

/-- The decimal of these places that rounds a number: none is nearer to it, and if another one is
as near, the last digit is even. -/
structure Rounds (places : ℕ) (x : ℚ) (numeral : Numeral) : Prop where
  isDigit : ∀ c ∈ numeral.fraction, c.isDigit = true
  length : numeral.fraction.length = places
  closest : ∀ k : ℤ, |numeral.value - x| ≤ |k / 10 ^ places - x|
  even : ∀ k : ℤ, (k / 10 ^ places : ℚ) ≠ numeral.value →
    |k / 10 ^ places - x| = |numeral.value - x| →
      ∃ digit, numeral.fraction.getLast? = some digit ∧ Even (digitValue digit)

theorem read_padLeft (width : ℕ) (numeral : Numeral) :
    read (padLeft width numeral.text) = numeral := by
  have point : ∀ c ∈ Nat.toDigits 10 numeral.whole, (c != '.') = true := by
    intro c member
    have digit := isDigit_toDigits member
    rw [bne_iff_ne]
    rintro rfl
    exact absurd digit (by decide)
  have trimmed : (padLeft width numeral.text).dropWhile (· == ' ') = numeral.text := by
    rw [padLeft, List.dropWhile_append_of_pos (by simp), text]
    cases digits : Nat.toDigits 10 numeral.whole with
    | nil => exact absurd digits Nat.toDigits_ne_nil
    | cons first rest =>
        have digit : first.isDigit = true :=
          isDigit_toDigits (n := numeral.whole) (by rw [digits]; exact List.mem_cons_self)
        rw [List.cons_append, List.dropWhile_cons_of_neg]
        rw [beq_iff_eq]
        rintro rfl
        exact absurd digit (by decide)
  simp only [read, trimmed]
  rw [text, List.takeWhile_append_of_pos point, List.dropWhile_append_of_pos point]
  simp [Nat.ofDigitChars_ten_toDigits]

/-! ## Units of the last place -/

def units (numeral : Numeral) : ℕ :=
  numeral.whole * 10 ^ numeral.fraction.length + Nat.ofDigitChars 10 numeral.fraction 0

theorem value_eq (numeral : Numeral) :
    numeral.value = numeral.units / 10 ^ numeral.fraction.length := by
  rw [value, units, Nat.cast_add, Nat.cast_mul, add_div, Nat.cast_pow, Nat.cast_ofNat,
    mul_div_cancel_right₀ _ (by positivity)]

/-- The last digit tells whether the units are even. -/
theorem even_units {numeral : Numeral} (filled : numeral.fraction ≠ []) :
    Even numeral.units ↔
      ∃ digit, numeral.fraction.getLast? = some digit ∧ Even (digitValue digit) := by
  obtain ⟨front, last, fraction⟩ := (List.eq_nil_or_concat' numeral.fraction).resolve_left filled
  have units : numeral.units =
      2 * (5 * (numeral.whole * 10 ^ front.length + Nat.ofDigitChars 10 front 0)) +
        digitValue last := by
    rw [units, fraction, ofDigitChars_concat, List.length_append, List.length_singleton]
    ring
  rw [units, fraction, List.getLast?_concat, Nat.even_add, iff_true_left (even_two_mul _)]
  simp

/-- Decimals of the same places are known by their units. -/
theorem eq_of_units_eq {first second : Numeral}
    (length : first.fraction.length = second.fraction.length)
    (isDigit : ∀ c ∈ first.fraction, c.isDigit = true)
    (isDigit' : ∀ c ∈ second.fraction, c.isDigit = true) (same : first.units = second.units) :
    first = second := by
  -- Both are the quotient and the rest of the same number of units.
  have parts (numeral : Numeral) (isDigit : ∀ c ∈ numeral.fraction, c.isDigit = true) :
      numeral.units / 10 ^ numeral.fraction.length = numeral.whole ∧
        numeral.units % 10 ^ numeral.fraction.length =
          Nat.ofDigitChars 10 numeral.fraction 0 :=
    (Nat.div_mod_unique (by positivity)).mpr
      ⟨by rw [units, Nat.mul_comm, Nat.add_comm], ofDigitChars_lt isDigit⟩
  obtain ⟨whole, fraction⟩ := parts first isDigit
  obtain ⟨whole', fraction'⟩ := parts second isDigit'
  rw [same, length] at whole fraction
  have digits : first.fraction = second.fraction :=
    eq_of_ofDigitChars_eq length isDigit isDigit' (fraction.symm.trans fraction')
  cases first
  cases second
  cases digits
  cases whole.symm.trans whole'
  rfl

def ofUnits (places units : ℕ) : Numeral where
  whole := units / 10 ^ places
  fraction := zeroPadded places (units % 10 ^ places)

section ofUnits

variable {places units : ℕ}

theorem length_ofUnits (positive : 0 < places) :
    (ofUnits places units).fraction.length = places :=
  length_zeroPadded positive (Nat.mod_lt _ (by positivity))

theorem units_ofUnits (positive : 0 < places) : (ofUnits places units).units = units := by
  rw [Numeral.units, length_ofUnits positive]
  simp only [ofUnits, ofDigitChars_zeroPadded]
  exact Nat.div_add_mod' units (10 ^ places)

end ofUnits

/-! ## Rounding -/

section Rounds

variable {places : ℕ} {x : ℚ} {numeral : Numeral}

/-- A decimal rounds a number if its units are nearest to the number in these units. -/
theorem rounds_iff (positive : 0 < places) (length : numeral.fraction.length = places)
    (isDigit : ∀ c ∈ numeral.fraction, c.isDigit = true) :
    Rounds places x numeral ↔ Nearest (x * 10 ^ places) numeral.units := by
  have scale : (0 : ℚ) < 10 ^ places := by positivity
  have distance (k : ℚ) : |k / 10 ^ places - x| = |k - x * 10 ^ places| / 10 ^ places := by
    rw [← abs_of_pos scale, ← abs_div, abs_of_pos scale, sub_div, mul_div_cancel_right₀ _ scale.ne']
  have value : numeral.value = (numeral.units : ℤ) / 10 ^ places := by
    rw [value_eq, length, Int.cast_natCast]
  have filled : numeral.fraction ≠ [] := by
    rw [← List.length_pos_iff, length]
    exact positive
  constructor
  · intro rounds
    refine .of_closest (fun k => ?_) (fun k other tie => ?_)
    · have closest := rounds.closest k
      rw [value, distance, distance, div_le_div_iff_of_pos_right scale] at closest
      exact_mod_cast closest
    · rw [even_units filled]
      refine rounds.even k ?_ ?_
      · rw [value, Ne, div_left_inj' scale.ne', Int.cast_inj]
        exact other
      · rw [value, distance, distance, div_left_inj' scale.ne']
        exact_mod_cast tie
  · intro nearest
    refine ⟨isDigit, length, fun k => ?_, fun k other tie => ?_⟩
    · rw [value, distance, distance, div_le_div_iff_of_pos_right scale]
      exact_mod_cast nearest.closest k
    · rw [← even_units filled]
      rw [value, Ne, div_left_inj' scale.ne', Int.cast_inj] at other
      rw [value, distance, distance, div_left_inj' scale.ne'] at tie
      exact nearest.even_of_tie other (by exact_mod_cast tie)

theorem Rounds.nearest (rounds : Rounds places x numeral) (positive : 0 < places) :
    Nearest (x * 10 ^ places) numeral.units :=
  (rounds_iff positive rounds.length rounds.isDigit).mp rounds

/-- Only one decimal rounds a number. -/
theorem Rounds.unique {other : Numeral} (rounds : Rounds places x numeral)
    (rounds' : Rounds places x other) (positive : 0 < places) : other = numeral :=
  eq_of_units_eq (rounds'.length.trans rounds.length.symm) rounds'.isDigit rounds.isDigit
    ((rounds'.nearest positive).unique (rounds.nearest positive))

/-- Rounded decimals keep order. -/
theorem Rounds.value_mono {y : ℚ} {other : Numeral} (rounds : Rounds places x numeral)
    (rounds' : Rounds places y other) (positive : 0 < places) (le : x ≤ y) :
    numeral.value ≤ other.value := by
  have units := (rounds.nearest positive).mono (rounds'.nearest positive)
    (mul_le_mul_of_nonneg_right le (by positivity))
  rw [value_eq, value_eq, rounds.length, rounds'.length]
  gcongr

/-- The decimal of the rounded units. -/
theorem rounds_ofUnits (positive : 0 < places) {units : ℕ}
    (nearest : Nearest (x * 10 ^ places) units) : Rounds places x (ofUnits places units) := by
  refine (rounds_iff positive (length_ofUnits positive) fun c => isDigit_zeroPadded).mpr ?_
  rw [units_ofUnits positive]
  exact nearest

end Rounds

/-- A quotient with fixed places is written as the decimal that rounds it. -/
theorem fixed_eq {places numerator denominator : ℕ} {x : ℚ} (places_pos : 0 < places)
    (denominator_pos : 0 < denominator) (quotient : (numerator / denominator : ℚ) = x) :
    ∃ numeral, fixed places numerator denominator = numeral.text ∧ Rounds places x numeral := by
  refine ⟨ofUnits places (roundDiv (numerator * 10 ^ places) denominator), rfl,
    rounds_ofUnits places_pos ?_⟩
  rw [← quotient, div_mul_eq_mul_div]
  exact_mod_cast nearest_roundDiv (numerator * 10 ^ places) denominator_pos

end Numeral

end SampleCapture.Decimal
