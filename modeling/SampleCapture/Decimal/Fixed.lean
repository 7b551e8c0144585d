/-!
# Fixed-point decimals

A quotient of naturals with a fixed number of places after the point, rounded to the
nearest such decimal, a tie going to the even digit.
-/

namespace SampleCapture.Decimal

/-- The natural nearest to `numerator / denominator`; of two equally near ones the
even one. -/
def roundDiv (numerator denominator : Nat) : Nat :=
  let quotient := numerator / denominator
  let twice := 2 * (numerator % denominator)
  if twice < denominator then quotient
  else if denominator < twice then quotient + 1
  else quotient + quotient % 2

def zeroPadded (width n : Nat) : List Char :=
  let digits := Nat.toDigits 10 n
  List.replicate (width - digits.length) '0' ++ digits

/-- A natural count of units of `10 ^ (-places)`, with its point. -/
def pointed (places units : Nat) : List Char :=
  Nat.toDigits 10 (units / Nat.pow 10 places) ++ '.' :: zeroPadded places (units % Nat.pow 10 places)

def fixed (places numerator denominator : Nat) : List Char :=
  pointed places (roundDiv (numerator * Nat.pow 10 places) denominator)

/-- Spaces in front, up to the width; longer text stays as it is. -/
def padLeft (width : Nat) (text : List Char) : List Char :=
  List.replicate (width - text.length) ' ' ++ text

theorem roundDiv_one (n : Nat) : roundDiv n 1 = n := by
  simp [roundDiv, Nat.mod_one]

end SampleCapture.Decimal
