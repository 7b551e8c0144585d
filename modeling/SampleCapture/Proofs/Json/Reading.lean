import Mathlib.Algebra.Group.Int.Defs
import Mathlib.Algebra.Group.Nat.Defs
import SampleCapture.Json.Record
import SampleCapture.Proofs.Json.Passing

/-!
# Reading integers

A number without fraction and exponent is read as the integer that is written, if that fits 64
bits; no other number is ever read as an integer. What a reader gives is looked at without the
problem of one that gives nothing.
-/

namespace SampleCapture.Json

/-! ## What a reader gives -/

namespace Reader

variable {α β : Type}

/-- The value that is read and the tokens behind it, if there is a value. -/
def get? (reader : Reader α) (tokens : List Token) : Option (α × List Token) :=
  match reader tokens with
  | .ok taken => some (taken.value, taken.rest)
  | .error _ => none

/-- A change of what is under a reader's problem. -/
theorem get?_of_map {reader : Reader α} {tokens : List Token} {other : Reader β}
    {more : List Token} {change : Taken α tokens → Taken β more} {f : α → β}
    (same : other more = (reader tokens).map change)
    (changes : ∀ taken, (change taken).value = f taken.value ∧ (change taken).rest = taken.rest) :
    other.get? more = (reader.get? tokens).map fun found => (f found.1, found.2) := by
  rw [get?, get?, same]
  cases reader tokens with
  | error problem => rfl
  | ok taken => exact congrArg some (Prod.ext (changes taken).1 (changes taken).2)

/-- One more token in front makes no difference. -/
theorem get?_of_behind {reader other : Reader α} {tokens : List Token} {token : Token}
    (same : other (token :: tokens) = (reader tokens).map (·.behind token)) :
    other.get? (token :: tokens) = reader.get? tokens := by
  rw [get?_of_map same (f := id) fun _ => ⟨rfl, rfl⟩]
  exact Option.map_id'

theorem get?_map (f : α → β) (reader : Reader α) (tokens : List Token) :
    (reader.map f).get? tokens = (reader.get? tokens).map fun found => (f found.1, found.2) :=
  get?_of_map rfl fun _ => ⟨rfl, rfl⟩

theorem get?_behindColon (reader : Reader α) (tokens : List Token) :
    (behindColon reader).get? (.colon :: tokens) = reader.get? tokens :=
  get?_of_behind rfl

/-- A value of which only the form is checked is passed over. -/
theorem get?_skipped {scrutiny : Scrutiny} {tree : Tree}
    (suits : ∀ symbol ∈ tree.symbols, scrutiny.Suits symbol)
    (room : ∀ limit, scrutiny.depth = some limit → tree.depth ≤ limit) (rest : List Token) :
    (skipped scrutiny).get? (tree.tokens ++ rest) = some ((), rest) := by
  have passed := tree.passes scrutiny [] rest suits fun limit bounded => by
    have fits := room limit bounded
    rw [List.length_nil]
    omega
  rw [get?, skipped]
  split
  · rename_i found
    split at found
    · rename_i behind same
      cases found
      cases same.symm.trans passed
      rfl
    · cases found
  · rename_i found
    split at found
    · cases found
    · rename_i problem same
      cases same.symm.trans passed

/-- A value that is thrown away may be any. -/
theorem get?_thrown (tree : Tree) (rest : List Token) :
    (skipped .lenient).get? (tree.tokens ++ rest) = some ((), rest) := by
  refine get?_skipped ?_ ?_ rest
  · rintro _ _ ⟨⟩
  · rintro _ ⟨⟩

end Reader

/-- A whole text has a value if a reader takes all its tokens for it. -/
theorem parse_eq_ok_iff {α : Type} {reader : Reader α} {text : String} {value : α} :
    parse reader text = .ok value ↔ reader.get? (Token.scan text.toList) = some (value, []) := by
  rw [parse, Reader.get?]
  cases reader (Token.scan text.toList) with
  | error problem => exact ⟨nofun, nofun⟩
  | ok taken =>
      obtain ⟨found, rest, shorter⟩ := taken
      cases rest with
      | nil =>
          constructor <;> rintro ⟨⟩ <;> rfl
      | cons token rest => exact ⟨nofun, nofun⟩

/-! ## Integers -/

namespace Number

theorem le_ofDigitChars (digits : List Char) (start : Nat) :
    start ≤ Nat.ofDigitChars 10 digits start := by
  induction digits generalizing start with
  | nil => exact Nat.le_refl _
  | cons digit digits ih =>
      rw [Nat.ofDigitChars_cons]
      exact Nat.le_trans (by omega) (ih _)

/-- Digits are gathered up to the end if they stand for a word. -/
theorem gather_of_lt {digits : List Char} {start : Nat}
    (fits : Nat.ofDigitChars 10 digits start < UInt64.size) :
    gather digits start = (Nat.ofDigitChars 10 digits start, 0) := by
  induction digits generalizing start with
  | nil => rfl
  | cons digit digits ih =>
      rw [Nat.ofDigitChars_cons] at fits ⊢
      have next : start * 10 + digitValue digit = 10 * start + (digit.toNat - '0'.toNat) := by
        rw [digitValue, Nat.mul_comm]
      have below := Nat.lt_of_le_of_lt (le_ofDigitChars digits _) fits
      rw [gather]
      simp only [next]
      rw [if_pos below, ih fits]

/-- Otherwise some are left over. -/
theorem gather_of_le {digits : List Char} {start : Nat} (small : start < UInt64.size)
    (large : UInt64.size ≤ Nat.ofDigitChars 10 digits start) : (gather digits start).2 ≠ 0 := by
  induction digits generalizing start with
  | nil => exact absurd small (Nat.not_lt.mpr large)
  | cons digit digits ih =>
      rw [Nat.ofDigitChars_cons] at large
      have next : start * 10 + digitValue digit = 10 * start + (digit.toNat - '0'.toNat) := by
        rw [digitValue, Nat.mul_comm]
      rw [gather]
      simp only [next]
      split
      · exact ih (by assumption) large
      · exact Nat.succ_ne_zero _

theorem gather_toDigits {n : Nat} (fits : n < UInt64.size) :
    gather (Nat.toDigits 10 n) 0 = (n, 0) := by
  rw [gather_of_lt] <;> rw [Nat.ofDigitChars_ten_toDigits]
  exact fits

theorem gather_toDigits_of_le {n : Nat} (large : UInt64.size ≤ n) :
    (gather (Nat.toDigits 10 n) 0).2 ≠ 0 :=
  gather_of_le (by decide) (by rwa [Nat.ofDigitChars_ten_toDigits])

end Number

namespace Numeral

theorem double_ne_integer (double : Option Float) (n : Int) :
    double.map Number.floating ≠ some (.integer n) := by
  cases double <;> nofun

/-- A number whose whole part is more than a word is no integer. -/
theorem value_ne_integer {negative : Bool} {whole : Nat} (large : UInt64.size ≤ whole) (n : Int) :
    (parts ⟨negative, whole, none, none⟩).value ≠ some (.integer n) := by
  obtain ⟨count, left⟩ := Nat.exists_eq_succ_of_ne_zero (Number.gather_toDigits_of_le large)
  simp only [Number.Parts.value, parts, Option.map_none, left]
  exact double_ne_integer _ n

theorem integer?_negative (whole : Nat) :
    integer? ⟨true, whole, none, none⟩ = if whole = 0 then none else some (-(whole : Int)) := rfl

theorem value_negative {whole : Nat} (fits : whole < UInt64.size) :
    (parts ⟨true, whole, none, none⟩).value =
      if 0 < whole ∧ whole ≤ 2 ^ 63 then some (.integer (-whole))
      else some (.floating (-whole.toUInt64.toFloat)) := by
  simp [Number.Parts.value, parts, Number.gather_toDigits fits]

theorem value_positive {whole : Nat} (fits : whole < UInt64.size) :
    (parts ⟨false, whole, none, none⟩).value = some (.integer whole) := by
  simp [Number.Parts.value, parts, Number.gather_toDigits fits]

/-- A number is read as an integer exactly if it is written as one that fits 64 bits. -/
theorem value_eq_integer_iff (numeral : Numeral) (n : Int) :
    numeral.parts.value = some (.integer n) ↔
      numeral.integer? = some n ∧ -(2 ^ 63 : Int) ≤ n ∧ n < UInt64.size := by
  have size : UInt64.size = 2 ^ 64 := rfl
  rcases numeral with ⟨_ | _, whole, _ | fraction, _ | exponent⟩
  · -- A natural.
    have integer : integer? ⟨false, whole, none, none⟩ = some (whole : Int) := rfl
    by_cases fits : whole < UInt64.size
    · rw [value_positive fits, integer, Option.some.injEq, Option.some.injEq, Number.integer.injEq]
      omega
    · refine iff_of_false (value_ne_integer (Nat.not_lt.mp fits) n) ?_
      rw [integer, Option.some.injEq]
      omega
  case' true.none.none =>
    -- An integer below zero, or minus zero.
    by_cases fits : whole < UInt64.size
    · rw [value_negative fits, integer?_negative]
      split
      all_goals split
      all_goals simp
      all_goals omega
    · refine iff_of_false (value_ne_integer (Nat.not_lt.mp fits) n) ?_
      rw [integer?_negative]
      split <;> simp
      omega
  all_goals
    refine iff_of_false ?_ (by simp [integer?])
    exact double_ne_integer _ n

end Numeral

def Tree.natural? (bound : Nat) : Tree → Option Nat
  | .number numeral =>
      numeral.integer?.bind fun n => if 0 ≤ n ∧ n < bound then some n.toNat else none
  | _ => none

theorem Tree.natural?_eq_some_iff {bound n : Nat} {tree : Tree} :
    tree.natural? bound = some n ↔
      n < bound ∧ ∃ numeral, tree = .number numeral ∧ numeral.integer? = some (n : Int) := by
  cases tree with
  | number numeral =>
      simp only [natural?, Option.bind_eq_some_iff, Option.ite_none_right_eq_some,
        Option.some.injEq]
      constructor
      · rintro ⟨m, found, ⟨natural, below⟩, rfl⟩
        refine ⟨by omega, numeral, rfl, ?_⟩
        rw [found, Int.toNat_of_nonneg natural]
      · rintro ⟨below, _, ⟨⟩, found⟩
        exact ⟨n, found, ⟨Int.natCast_nonneg n, by omega⟩, Int.toNat_natCast n⟩
  | _ => exact iff_of_false nofun (by rintro ⟨-, _, ⟨⟩, -⟩)

/-- What does not fit 64 bits is no natural below a bound. -/
theorem Tree.natural?_eq_none {bound : Nat} (word : bound ≤ UInt64.size) {numeral : Numeral}
    (other : ∀ n, numeral.parts.value ≠ some (.integer n)) :
    (Tree.number numeral).natural? bound = none := by
  rw [Option.eq_none_iff_forall_ne_some]
  intro n found
  obtain ⟨below, _, ⟨⟩, written⟩ := natural?_eq_some_iff.mp found
  exact other n ((numeral.value_eq_integer_iff n).mpr ⟨written, by omega, by omega⟩)

namespace Reader

variable {name : String} {bound : Nat}

theorem get?_natural_integer (n : Int) (form : Bool) (rest : List Token) :
    (natural name bound).get? (.number (.ok (.integer n)) form :: rest) =
      if 0 ≤ n ∧ n < bound then some (n.toNat, rest) else none := by
  rw [get?, natural]
  by_cases fits : 0 ≤ n ∧ n < bound
  · rw [if_pos fits, if_pos fits]
    rfl
  · rw [if_neg fits, if_neg fits]

/-- A natural is read off the values that are naturals below its bound, and off no others. -/
theorem get?_natural (word : bound ≤ UInt64.size) (tree : Tree) (rest : List Token) :
    (natural name bound).get? (tree.tokens ++ rest) =
      (tree.natural? bound).map fun n => (n, rest) := by
  cases tree with
  | number numeral =>
      have token : (Tree.number numeral).tokens ++ rest =
          .number (orMalformed numeral.parts.value) true :: rest := rfl
      cases value : numeral.parts.value with
      | none =>
          rw [Tree.natural?_eq_none word (by rw [value]; nofun), token, value]
          rfl
      | some number =>
          cases number with
          | floating x =>
              rw [Tree.natural?_eq_none word (by rw [value]; nofun), token, value]
              rfl
          | integer n =>
              obtain ⟨written, -⟩ := (numeral.value_eq_integer_iff n).mp value
              rw [token, value, orMalformed, Option.elim_some, get?_natural_integer, Tree.natural?,
                written, Option.bind_some]
              split <;> rfl
  | list items => cases items <;> rfl
  | map members => cases members <;> rfl
  | _ => rfl

end Reader

end SampleCapture.Json
