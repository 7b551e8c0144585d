import SampleCapture.Progress.Line
import SampleCapture.Proofs.Decimal.Double
import SampleCapture.Proofs.Decimal.Numeral

/-!
# The volume in a telemetry line

The volume column is looked up in the line and read back. What stands there is the volume that a
double keeps, rounded to three places: up to `2 ^ 53` bytes this is the one decimal that rounds
the volume itself, and above it never goes back.
-/

namespace SampleCapture.ProgressLine

open Decimal

/-- What stands in a line between the mark of the time and the unit of the volume. -/
def volumeCell (line : List Char) : List Char :=
  (((line.dropWhile (· != 's')).drop "s total time ".toList.length).takeWhile (· != 'M')).dropLast

def volume (line : List Char) : Numeral :=
  .read (volumeCell line)

def mebibytes (total : UInt64) : ℚ :=
  total.toNat / 2 ^ 20

def floatMebibytes (total : UInt64) : Float :=
  total.toFloat / (1024.0 * 1024.0)

/-! ## Finding the column -/

theorem mem_fixed {c : Char} {places numerator denominator : ℕ}
    (member : c ∈ Decimal.fixed places numerator denominator) : c = '.' ∨ c.isDigit = true := by
  rcases List.mem_append.mp member with whole | rest
  · exact .inr (isDigit_toDigits whole)
  · rcases List.mem_cons.mp rest with point | fraction
    · exact .inl point
    · exact .inr (isDigit_zeroPadded fraction)

theorem mem_padLeft {c : Char} {width : ℕ} {text : List Char} (member : c ∈ padLeft width text) :
    c = ' ' ∨ c ∈ text :=
  (List.mem_append.mp member).imp_left List.eq_of_mem_replicate

theorem mark_not_mem_column (width places shift : ℕ) (x : Float) :
    's' ∉ column width places shift x := by
  intro member
  rcases mem_padLeft member with blank | text
  · exact absurd blank (by decide)
  cases value : DoubleValue.ofFloat x with
  | nan =>
      rw [value] at text
      exact absurd text (by decide : 's' ∉ "NaN".toList)
  | infinite negative =>
      rw [value] at text
      cases negative
      · exact absurd text (by decide : 's' ∉ "inf".toList)
      · exact absurd text (by decide : 's' ∉ "-inf".toList)
  | finite negative mantissa exponent =>
      rw [value, DoubleValue.fixed] at text
      split at text
      · exact (mem_fixed ((List.mem_cons.mp text).resolve_left (by decide))).elim
          (by decide) (by decide)
      · exact (mem_fixed text).elim (by decide) (by decide)

theorem unit_not_mem_volumeColumn (total : UInt64) : 'M' ∉ volumeColumn total := by
  intro member
  rcases mem_padLeft member with blank | text
  · exact absurd blank (by decide)
  · exact (mem_fixed text).elim (by decide) (by decide)

theorem volumeCell_append {time cell : List Char} (rest : List Char) (noMark : 's' ∉ time)
    (noUnit : 'M' ∉ cell) :
    volumeCell (time ++ ("s total time ".toList ++ (cell ++ (" MiB captured ".toList ++ rest)))) =
      cell := by
  have front : ∀ c ∈ time, (c != 's') = true := by
    intro c member
    rw [bne_iff_ne]
    rintro rfl
    exact noMark member
  have back : ∀ c ∈ cell, (c != 'M') = true := by
    intro c member
    rw [bne_iff_ne]
    rintro rfl
    exact noUnit member
  have behind : ("s total time ".toList ++ (cell ++ (" MiB captured ".toList ++ rest))).dropWhile
      (· != 's') = "s total time ".toList ++ (cell ++ (" MiB captured ".toList ++ rest)) := rfl
  have unit : (" MiB captured ".toList ++ rest).takeWhile (· != 'M') = [' '] := rfl
  rw [volumeCell, List.dropWhile_append_of_pos front, behind, List.drop_left,
    List.takeWhile_append_of_pos back, unit, List.dropLast_concat]

theorem volumeCell_render (report : ProgressSnapshot) (dropouts : UInt64) :
    volumeCell (render report dropouts) = volumeColumn report.total := by
  rw [render]
  simp only [List.append_assoc]
  exact volumeCell_append _ (mark_not_mem_column _ _ _ _) (unit_not_mem_volumeColumn _)

/-! ## Reading the column -/

/-- The column has the decimal that rounds what a double keeps of the volume. -/
theorem volumeColumn_rounds (total : UInt64) :
    ∃ numeral : Numeral, volumeColumn total = padLeft 9 numeral.text ∧
      numeral.Rounds 3 (nearestDouble total.toNat / 2 ^ 20) := by
  have units : (nearestDouble total.toNat / (Nat.pow 2 20 : ℕ) : ℚ) =
      nearestDouble total.toNat / 2 ^ 20 := by
    norm_num
  obtain ⟨numeral, text, rounds⟩ := Numeral.fixed_eq three_pos (by decide) units
  exact ⟨numeral, by rw [volumeColumn, text], rounds⟩

theorem rounds_volume (report : ProgressSnapshot) (dropouts : UInt64) :
    (volume (render report dropouts)).Rounds 3 (nearestDouble report.total.toNat / 2 ^ 20) ∧
      volumeCell (render report dropouts) = padLeft 9 (volume (render report dropouts)).text := by
  obtain ⟨numeral, column, rounds⟩ := volumeColumn_rounds report.total
  rw [volume, volumeCell_render, column, Numeral.read_padLeft]
  exact ⟨rounds, rfl⟩

theorem toRat?_floatMebibytes (total : UInt64) :
    (DoubleValue.ofFloat (floatMebibytes total)).toRat? =
      some ((nearestDouble total.toNat : ℚ) / 2 ^ 20) := by
  obtain ⟨mantissa, exponent, value, quotient⟩ := ofFloat_toFloat_div total
  rw [floatMebibytes, value, ← quotient]
  simp [DoubleValue.toRat?]

/-- The column is that of the double that the volume is computed as. -/
theorem volumeColumn_eq (total : UInt64) :
    volumeColumn total = column 9 3 0 (floatMebibytes total) := by
  obtain ⟨mantissa, exponent, value, quotient⟩ := ofFloat_toFloat_div total
  have same : (mantissa * 2 ^ exponent : ℚ) = nearestDouble total.toNat / (Nat.pow 2 20 : ℕ) := by
    rw [quotient]
    norm_num
  rw [column, floatMebibytes, value, volumeColumn, DoubleValue.fixed_finite 3 (by decide) same]

/-! ## The line -/

theorem render_eq (report : ProgressSnapshot) (dropouts : UInt64) :
    ∃ time rates, render report dropouts = time ++ "s total time ".toList ++
      volumeColumn report.total ++ " MiB captured ".toList ++
        (rates ++
          ("totalrate ".toList ++ Nat.toDigits 10 dropouts.toNat ++ " dropouts".toList)) := by
  refine ⟨column 10 2 0 report.elapsed, column 7 1 10 report.currentRate ++
    " kB/s curr rate ".toList ++ column 7 1 10 report.totalRate ++ " kB/s ".toList, ?_⟩
  have mark : " kB/s totalrate ".toList = " kB/s ".toList ++ "totalrate ".toList := rfl
  rw [render, mark]
  simp only [List.append_assoc]

/-- A telemetry line tells the volume of a report exactly, and the dropouts. -/
structure Exact (report : ProgressSnapshot) (dropouts : UInt64) (line : List Char) : Prop where
  /-- The volume has a column of its own. -/
  placed : ∃ time rates, line = time ++ "s total time ".toList ++ volumeCell line ++
    " MiB captured ".toList ++ rates
  /-- There it is put to the right of nine places, or takes as many as it needs. -/
  aligned : volumeCell line =
    List.replicate (9 - (volume line).text.length) ' ' ++ (volume line).text
  /-- Up to `2 ^ 53` bytes it is the volume rounded to three places. -/
  nearest : report.total.toNat ≤ 2 ^ 53 → (volume line).Rounds 3 (mebibytes report.total)
  /-- No other decimal would do. -/
  only : report.total.toNat ≤ 2 ^ 53 →
    ∀ other : Numeral, other.Rounds 3 (mebibytes report.total) → other = volume line
  /-- So far the arithmetic of doubles is exact. -/
  exact : report.total.toNat ≤ 2 ^ 53 →
    (DoubleValue.ofFloat (floatMebibytes report.total)).toRat? = some (mebibytes report.total)
  /-- Further on it is the double that is rounded. -/
  double : ∃ x, (DoubleValue.ofFloat (floatMebibytes report.total)).toRat? = some x ∧
    (volume line).Rounds 3 x
  /-- The text is that of any double in a column like this. -/
  text : volumeCell line = column 9 3 0 (floatMebibytes report.total)
  /-- A line with as many bytes or more does not tell a smaller volume. -/
  grows : ∀ (later : ProgressSnapshot) (others : UInt64), report.total ≤ later.total →
    (volume line).value ≤ (volume (render later others)).value
  /-- The dropouts stand at the end. -/
  ends : "totalrate ".toList ++ Nat.toDigits 10 dropouts.toNat ++ " dropouts".toList <:+ line

theorem exact_render (report : ProgressSnapshot) (dropouts : UInt64) :
    Exact report dropouts (render report dropouts) := by
  obtain ⟨time, rates, line⟩ := render_eq report dropouts
  obtain ⟨rounds, aligned⟩ := rounds_volume report dropouts
  have kept (small : report.total.toNat ≤ 2 ^ 53) :
      (nearestDouble report.total.toNat : ℚ) / 2 ^ 20 = mebibytes report.total := by
    rw [nearestDouble_of_le small, mebibytes]
  constructor
  case placed =>
    rw [volumeCell_render]
    exact ⟨time, _, line⟩
  case aligned => exact aligned
  case nearest => exact fun small => kept small ▸ rounds
  case only =>
    intro small other found
    rw [← kept small] at found
    exact rounds.unique found (by decide)
  case exact =>
    intro small
    rw [toRat?_floatMebibytes, kept small]
  case double => exact ⟨_, toRat?_floatMebibytes report.total, rounds⟩
  case text => rw [volumeCell_render, volumeColumn_eq]
  case grows =>
    intro later others more
    refine rounds.value_mono (rounds_volume later others).1 (by decide) ?_
    have doubles := nearestDouble_mono (UInt64.le_iff_toNat_le.mp more)
    gcongr
  case ends =>
    rw [line]
    exact (List.suffix_append _ _).trans (List.suffix_append _ _)

/-- Halfway between two decimals the even digit is taken, and a carry may need one more place. -/
example : volumeColumn 65536 = "    0.062".toList ∧
    volumeColumn 196608 = "    0.188".toList ∧
    volumeColumn 104857599581 = "100000.000".toList := by
  decide

end SampleCapture.ProgressLine
