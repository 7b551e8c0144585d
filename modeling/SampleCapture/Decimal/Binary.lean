import SampleCapture.Decimal.Fixed

/-!
# Doubles as exact numbers

Reads the bits of a double as sign, mantissa and exponent of two, so that its decimals
can be worked out in exact arithmetic, and rounds a natural to the nearest double.
-/

namespace SampleCapture.Decimal

inductive DoubleValue where
  | nan
  | infinite (negative : Bool)
  /-- The number `mantissa * 2 ^ exponent`, with a sign that zero has too. -/
  | finite (negative : Bool) (mantissa : Nat) (exponent : Int)
deriving Repr, DecidableEq, Inhabited

/-- Reads the three fields of a double: one sign bit, eleven exponent bits and 52
fraction bits; exponent 0 marks a fraction without a hidden bit. -/
def DoubleValue.ofBits (bits : UInt64) : DoubleValue :=
  let negative := bits >>> 63 == 1
  let exponent : Nat := (bits >>> 52).toNat % Nat.pow 2 11
  let fraction := bits.toNat % Nat.pow 2 52
  if exponent = 2047 then
    if fraction = 0 then .infinite negative else .nan
  else if exponent = 0 then .finite negative fraction (-1074)
  else .finite negative (Nat.pow 2 52 + fraction) (exponent - 1075)

def DoubleValue.ofFloat (x : Float) : DoubleValue :=
  ofBits x.toBits

def DoubleValue.fixed (places shift : Nat) : DoubleValue → List Char
  | nan => "NaN".toList
  | infinite negative => if negative then "-inf".toList else "inf".toList
  | finite negative mantissa exponent =>
      let scale := exponent - shift
      let digits := Decimal.fixed places (mantissa * Nat.pow 2 scale.toNat)
        (Nat.pow 2 (-scale).toNat)
      if negative then '-' :: digits else digits

/-- The natural with at most 53 significant bits nearest to `n`, ties to even: what is
left of `n` in a double. -/
def nearestDouble (n : Nat) : Nat :=
  let unit := Nat.pow 2 (n.log2 - 52)
  roundDiv n unit * unit

theorem nearestDouble_of_lt {n : Nat} (small : n < Nat.pow 2 53) : nearestDouble n = n := by
  have short : n.log2 - 52 = 0 := by
    by_cases zero : n = 0
    · subst zero; decide
    · have := (Nat.log2_lt zero).mpr small
      omega
  simp [nearestDouble, short, roundDiv_one]

end SampleCapture.Decimal
