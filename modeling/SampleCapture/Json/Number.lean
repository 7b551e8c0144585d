import SampleCapture.Json.Problem

/-!
# JSON numbers

A number has an integer part without leading zeros, and may have a fraction and an
exponent. Without both it is an integer if it fits 64 bits. Otherwise it is a double:
the leading digits that fit 64 bits are taken as a natural, further digits only count
for the exponent, and the natural is scaled by a power of ten in double arithmetic. A
scaled number beyond the double range is malformed.
-/

namespace SampleCapture.Json

/-- A number in the text. When its value is skipped, it only has to be well formed; its
own problem may be another one, and a number out of range is no problem then. -/
structure NumberScan where
  value : Except Problem Number
  wellFormed : Bool
  rest : List Char

namespace Number

def isDigit (c : Char) : Bool :=
  '0' ≤ c && c ≤ '9'

def digitValue (c : Char) : Nat :=
  c.toNat - '0'.toNat

/-- Appends digits to a natural while it fits 64 bits; the result has the number of
digits left over. -/
def gather : List Char → Nat → Nat × Nat
  | [], significand => (significand, 0)
  | digit :: digits, significand =>
      let next := significand * 10 + digitValue digit
      if next < UInt64.size then gather digits next else (significand, digits.length + 1)

def natural (digits : List Char) : Nat :=
  digits.foldl (fun value digit => value * 10 + digitValue digit) 0

def powerOfTen (exponent : Nat) : Float :=
  Float.ofScientific 1 false exponent

/-- Scales a double by a power of ten: by one multiplication or division up to the
308th power, a smaller power after divisions by the 308th. Nothing if the result is
beyond the double range. -/
def scale (x : Float) (exponent : Int) : Option Float :=
  if exponent.natAbs ≤ 308 then
    if 0 ≤ exponent then
      let scaled := x * powerOfTen exponent.natAbs
      if scaled.isInf then none else some scaled
    else some (x / powerOfTen exponent.natAbs)
  else if x == 0.0 then some x
  else if 0 ≤ exponent then none
  else scale (x / powerOfTen 308) (exponent + 308)
termination_by exponent.natAbs
decreasing_by omega

def signed (negative : Bool) (x : Float) : Float :=
  if negative then -x else x

def exponentLimit : Nat := Nat.pow 2 31 - 1

structure Parts where
  negative : Bool
  whole : List Char
  fraction : Option (List Char)
  /-- Sign and digits of the exponent. -/
  exponent : Option (Bool × List Char)

/-- The double that a significand and the parts of an exponent stand for. An exponent
past the limit makes zero, or is out of range. -/
def double (negative : Bool) (significand : Nat) (shift : Int)
    (exponent : Option (Bool × List Char)) : Option Float :=
  let base := significand.toUInt64.toFloat
  match exponent with
  | none => (scale base shift).map (signed negative)
  | some (downwards, digits) =>
      let size := natural digits
      if exponentLimit < size then
        if significand ≠ 0 && !downwards then none else some (signed negative 0.0)
      else
        (scale base (if downwards then shift - size else shift + size)).map (signed negative)

/-- The value of a well-formed number. Minus zero and integers that do not fit are
doubles. -/
def Parts.value (parts : Parts) : Option Number :=
  let (significand, dropped) := gather parts.whole 0
  match parts.fraction, parts.exponent, dropped with
  | none, none, 0 =>
      if !parts.negative then some (.integer significand)
      else if 0 < significand && significand ≤ Nat.pow 2 63 then some (.integer (-significand))
      else some (.floating (-significand.toUInt64.toFloat))
  | none, exponent, dropped =>
      (double parts.negative significand dropped exponent).map .floating
  | some fraction, exponent, dropped =>
      let (all, ignored) := gather fraction significand
      let places := fraction.length - ignored
      (double parts.negative all ((dropped : Int) - places) exponent).map .floating

def broken (rest : List Char) : NumberScan where
  value := .error (if rest = [] then .truncated else .malformed)
  wellFormed := false
  rest := rest

def complete (parts : Parts) (rest : List Char) : NumberScan where
  value := parts.value.elim (.error .malformed) .ok
  wellFormed := true
  rest := rest

def scanExponent (parts : Parts) (text : List Char) : NumberScan :=
  let (downwards, digits) :=
    match text with
    | '+' :: rest => (false, rest)
    | '-' :: rest => (true, rest)
    | rest => (false, rest)
  if digits.takeWhile isDigit = [] then broken digits
  else
    complete { parts with exponent := some (downwards, digits.takeWhile isDigit) }
      (digits.dropWhile isDigit)

def scanTail (parts : Parts) : List Char → NumberScan
  | 'e' :: rest => scanExponent parts rest
  | 'E' :: rest => scanExponent parts rest
  | rest => complete parts rest

def scanFraction (parts : Parts) : List Char → NumberScan
  | '.' :: behind =>
      if behind.takeWhile isDigit = [] then broken behind
      else
        scanTail { parts with fraction := some (behind.takeWhile isDigit) }
          (behind.dropWhile isDigit)
  | rest => scanTail parts rest

/-- Whether digits can stand before the point: one zero, or no zero in front. -/
def isWhole (digits : List Char) : Bool :=
  digits.head? != some '0' || digits.length == 1

def scanUnsigned (negative : Bool) (text : List Char) : NumberScan :=
  if text.takeWhile isDigit = [] then broken (text.dropWhile isDigit)
  else if isWhole (text.takeWhile isDigit) then
    scanFraction
      { negative, whole := text.takeWhile isDigit, fraction := none, exponent := none }
      (text.dropWhile isDigit)
  else
    { value := .error .malformed, wellFormed := false, rest := text.dropWhile isDigit }

theorem scanExponent_suffix (parts : Parts) (text : List Char) :
    (scanExponent parts text).rest <:+ text := by
  unfold scanExponent
  split
  rename_i downwards digits chosen
  have inside : digits <:+ text := by
    split at chosen <;> cases chosen
    · exact List.suffix_cons _ _
    · exact List.suffix_cons _ _
    · exact List.suffix_refl _
  split
  · exact inside
  · exact (List.dropWhile_suffix _).trans inside

theorem scanTail_suffix (parts : Parts) (text : List Char) :
    (scanTail parts text).rest <:+ text := by
  unfold scanTail
  split
  · exact (scanExponent_suffix _ _).trans (List.suffix_cons _ _)
  · exact (scanExponent_suffix _ _).trans (List.suffix_cons _ _)
  · exact List.suffix_refl _

theorem scanFraction_suffix (parts : Parts) (text : List Char) :
    (scanFraction parts text).rest <:+ text := by
  unfold scanFraction
  split
  · split
    · exact List.suffix_cons _ _
    · exact (scanTail_suffix _ _).trans
        ((List.dropWhile_suffix _).trans (List.suffix_cons _ _))
  · exact scanTail_suffix _ _

theorem scanUnsigned_suffix (negative : Bool) (text : List Char) :
    (scanUnsigned negative text).rest <:+ text.dropWhile isDigit := by
  unfold scanUnsigned
  split
  · exact List.suffix_refl _
  · split
    · exact scanFraction_suffix _ _
    · exact List.suffix_refl _

end Number

end SampleCapture.Json
